import ElementsDrivechain.Deterministic.Ctip

/-!
# Disconnecting deposits

Nothing is kept for the undo of a deposit: what the record said before is read from the evidence,
and the record is written anew at the height below the block.  The record that was there may be
older.

* `Deterministic.deposit_disconnect_restores` : **the record is restored exactly when it was written
  right below the first deposit**, or not there at all.
-/

namespace ElementsDrivechain.Deterministic

open Fallible

namespace Deposit

/-- Two chainstates with the same record. -/
def SameCtip (view view' : CCoinsView) : Prop :=
  view.accessCoin CTIP_STATE_OUTPOINT = view'.accessCoin CTIP_STATE_OUTPOINT

/-- Deposits are checked and connected one after the other.  Between two of them the rest of the
chainstate may change. -/
abbrev Connected (N : DepositNetwork) : CCoinsView → List Deposit → CCoinsView → Prop :=
  Run fun view d view' => verifyDeterministicDeposit N d view = .ok () ∧
    ∃ connected, connectDepositState N d view = .ok connected ∧ SameCtip view' connected

/-- Deposits are disconnected one after the other. -/
abbrev Disconnected (N : DepositNetwork) : CCoinsView → List Deposit → CCoinsView → Prop :=
  Run fun view d view' =>
    ∃ disconnected, disconnectDepositState N d view = .ok disconnected ∧
      SameCtip view' disconnected

/-- The deposits can be disconnected in the given order, whatever happens to the rest of the
chainstate between two of them, and then the record is what it was. -/
def Restores (N : DepositNetwork) (before : CCoinsView) : List Deposit → CCoinsView → Prop
  | [], current => SameCtip current before
  | d :: rest, current => ∃ disconnected, disconnectDepositState N d current = .ok disconnected ∧
      ∀ view, SameCtip view disconnected → Restores N before rest view

variable {N : DepositNetwork} {view before final current : CCoinsView} {d : Deposit}
  {deposits : List Deposit} {next : CtipState}

theorem Connection.record {view' : CCoinsView} (h : Connection N d view next)
    (hsame : SameCtip view' (setCtipState N view next d.height)) :
    view'.accessCoin CTIP_STATE_OUTPOINT = some (ctipCoin N next d.height) := by
  rw [hsame, accessCoin_setCtipState h.fits]

/-- What a step of a run does. -/
theorem Connected.step {view' : CCoinsView} (h : verifyDeterministicDeposit N d view = .ok () ∧
      ∃ connected, connectDepositState N d view = .ok connected ∧ SameCtip view' connected) :
    Connection N d view (d.next N) ∧
      view'.accessCoin CTIP_STATE_OUTPOINT = some (ctipCoin N (d.next N) d.height) := by
  obtain ⟨hverify, connected, hconnect, hsame⟩ := h
  obtain ⟨hconnection, hset⟩ := connect_of_verify hverify
  obtain rfl := Except.ok.inj (hset.symm.trans hconnect)
  exact ⟨hconnection, hconnection.record hsame⟩

/-- A claim that was connected can be disconnected unless it claims from the null transaction. -/
theorem Connection.disconnect (h : Connection N d view next)
    (hfinal : final.accessCoin CTIP_STATE_OUTPOINT = some (ctipCoin N next d.height))
    (hcurrent : getCtipState N current = getCtipState N final) :
    (∃ o ∈ d.outpoint, o.hash = 0) ∧ (∀ r, disconnectDepositState N d current ≠ .ok r) ∨
      (∀ o ∈ d.outpoint, o.hash ≠ 0) ∧
        ∃ restored, disconnectDepositState N d current = .ok restored := by
  by_cases hnull : next.outpoint.hash = 0
  · refine .inl ⟨⟨next.outpoint, h.outpoint, hnull⟩, fun r hr => ?_⟩
    obtain ⟨s, hs⟩ := disconnect_state hr
    exact ((getCtipState_eq_some h.fits hfinal).1 (hcurrent.symm.trans hs)).1 hnull
  · refine .inr ⟨fun o ho => ?_, disconnect_eq h ?_⟩
    · obtain rfl := Option.some.inj (h.outpoint.symm.trans ho)
      exact hnull
    · exact hcurrent.trans ((getCtipState_eq_some h.fits hfinal).2 ⟨hnull, rfl⟩)

/-- What is read after a claim was disconnected is what was read before it. -/
theorem Connection.getCtipState_undone (h : Connection N d view next) {restored : CCoinsView}
    (hrestored : restored.accessCoin CTIP_STATE_OUTPOINT = d.undone N) :
    getCtipState N restored = getCtipState N view := by
  cases h with
  | checkpoint checkpoint hfind hview =>
    rw [undone, hfind] at hrestored
    rw [getCtipState_eq_none.2 hrestored, getCtipState_eq_none.2 hview]
  | claim parsed hfind hparse hview _ =>
    obtain ⟨_, _, hevidence⟩ := parseV2Deposit_spec hparse
    rw [undone, hfind, hparse] at hrestored
    rw [hview]
    exact (getCtipState_eq_some hevidence.previousState_fits hrestored).2
      ⟨hash_ne_zero_of_getCtipState hview, rfl⟩

/-- A claim that another one was connected after is not one from the null transaction. -/
theorem Connection.hash_ne_zero {u : Deposit} {view' : CCoinsView} {state : CtipState}
    (h : Connection N d view next) (hu : Connection N u view' state)
    (hview : view.accessCoin CTIP_STATE_OUTPOINT = some (ctipCoin N state u.height)) :
    state.outpoint.hash ≠ 0 := by
  cases h with
  | checkpoint _ _ hnone => cases hnone.symm.trans hview
  | claim parsed _ _ hstate _ => exact ((getCtipState_eq_some hu.fits hview).1 hstate).1

/-- The last claim does not claim from the null transaction. -/
def LastNonNull (deposits : List Deposit) : Prop :=
  ∀ d ∈ deposits.getLast?, ∀ o ∈ d.outpoint, o.hash ≠ 0

/-- Nothing was connected, or the record is that of the last claim, and then it depends on the first
one alone what is restored. -/
theorem Connected.restores (hrun : Connected N before deposits final) :
    deposits = [] ∧ SameCtip final before ∨
      ∃ d ∈ deposits.getLast?, ∃ view next, Connection N d view next ∧
        final.accessCoin CTIP_STATE_OUTPOINT = some (ctipCoin N next d.height) ∧
        ∀ current, getCtipState N current = getCtipState N final →
          (Restores N before deposits.reverse current ↔ LastNonNull deposits ∧
            ∀ d ∈ deposits.head?, d.undone N = before.accessCoin CTIP_STATE_OUTPOINT) := by
  refine Run.history hrun ?_ ?_
  · exact .inl ⟨rfl, rfl⟩
  · rintro deposits mid d final - ih hstep
    obtain ⟨hconnection, hrecord⟩ := Connected.step hstep
    refine .inr ⟨d, by simp, mid, d.next N, hconnection, hrecord, fun current hcurrent => ?_⟩
    rw [List.reverse_append, List.reverse_singleton, List.singleton_append, Restores]
    have hlast : LastNonNull (deposits ++ [d]) ↔ ∀ o ∈ d.outpoint, o.hash ≠ 0 := by
      simp [LastNonNull]
    rw [hlast]
    rcases hconnection.disconnect hrecord hcurrent with
      ⟨⟨o, ho, hnull⟩, hfail⟩ | ⟨hnonnull, restored, hdisconnect⟩
    · constructor
      · rintro ⟨r, hr, -⟩
        exact absurd hr (hfail r)
      · rintro ⟨hnonnull, -⟩
        exact absurd hnull (hnonnull o ho)
    · have hundone := disconnect_record hdisconnect
      rw [and_iff_right hnonnull]
      simp only [hdisconnect, Except.ok.injEq, exists_eq_left']
      rcases ih with ⟨rfl, -⟩ | ⟨u, hu, view, state, hu', hmid, hrestores⟩
      · simp only [List.reverse_nil, Restores, List.nil_append, List.head?_cons,
          Option.mem_some_iff, forall_eq']
        constructor
        · exact fun h => hundone.symm.trans (h restored rfl)
        · exact fun h v hv => hv.trans (hundone.trans h)
      · -- the record that the last claim was checked against is that of the claim before
        have hnonnull' : LastNonNull deposits := by
          intro u' hu'' o ho
          obtain rfl := Option.some.inj (hu.symm.trans hu'')
          obtain rfl := Option.some.inj (hu'.outpoint.symm.trans ho)
          exact hconnection.hash_ne_zero hu' hmid
        have hhead : (deposits ++ [d]).head? = deposits.head? := by
          cases deposits with
          | nil => cases hu
          | cons => rfl
        have hview : ∀ v, SameCtip v restored → getCtipState N v = getCtipState N mid :=
          fun v hv => hconnection.getCtipState_undone (hv.trans hundone)
        rw [hhead]
        constructor
        · exact fun h => ((hrestores restored (hview restored rfl)).1 (h restored rfl)).2
        · exact fun h v hv => (hrestores v (hview v hv)).2 ⟨hnonnull', h⟩

end Deposit

/-- The record is that of the state that is read from it, and was written at the given height. -/
def WrittenAt (N : DepositNetwork) (view : CCoinsView) (height : ℤ) : Prop :=
  ∃ state, getCtipState N view = .ok (some state) ∧
    view.accessCoin CTIP_STATE_OUTPOINT = some (ctipCoin N state height)

/-- The record before a claim is what is left after it was disconnected when it was written right
below the block. -/
theorem Deposit.Connection.undone_iff {N : DepositNetwork} {d : Deposit} {view : CCoinsView}
    {next : CtipState} (h : Connection N d view next) :
    d.undone N = view.accessCoin CTIP_STATE_OUTPOINT ↔
      (findLegacyCheckpoint d).isSome ∨ WrittenAt N view (d.height - 1) := by
  cases h with
  | checkpoint checkpoint hfind hview => simp [undone, hfind, hview]
  | claim parsed hfind hparse hview _ =>
    rw [undone, hfind, hparse]
    constructor
    · exact fun hcoin => .inr ⟨parsed.previousState, hview, hcoin.symm⟩
    · rintro (hsome | ⟨state, hstate, hcoin⟩)
      · cases hsome
      · obtain rfl := Option.some.inj (Except.ok.inj (hview.symm.trans hstate))
        exact hcoin.symm

/-- **The record is restored exactly when it was written right below the first deposit**, or not
there at all: let deposits be checked and connected one after the other.  Then they can be
disconnected in reverse order and leave the record as it was before them, with the height in it,
exactly when the last one does not claim from the null transaction and the first one is a checkpoint
or finds a record of the height below its block. -/
theorem deposit_disconnect_restores (N : DepositNetwork) (before final : CCoinsView)
    (deposits : List Deposit) (hrun : Deposit.Connected N before deposits final) :
    Deposit.Restores N before deposits.reverse final ↔
      Deposit.LastNonNull deposits ∧
      ∀ d ∈ deposits.head?,
        (findLegacyCheckpoint d).isSome ∨ WrittenAt N before (d.height - 1) := by
  rcases hrun.restores with ⟨rfl, hsame⟩ | ⟨u, hu, view, next, -, -, hrestores⟩
  · simp [Deposit.Restores, hsame, Deposit.LastNonNull]
  · rw [hrestores final rfl]
    cases deposits with
    | nil => cases hu
    | cons d rest =>
      obtain ⟨mid, hstep, -⟩ := Run.cons_iff.1 hrun
      obtain ⟨hconnection, -⟩ := Deposit.Connected.step hstep
      simp [hconnection.undone_iff]

/-! ### A small network -/

namespace Sample

/-- A script of a treasury output. -/
def treasuryScript : CScript := [0xb4, 0x01, 24, 0x51]

/-- The parent transaction of the first checkpoint. -/
def checkpointTx : CTransaction where
  vin := []
  vout := [{ nValue := 14402000, scriptPubKey := treasuryScript }]

/-- A deposit of a thousand after it. -/
def depositTx : CTransaction where
  vin := [{ prevout :=
    ⟨.ofNat 0x7de4aeb747a54bbe6b590d2038f445b9dc995217fb1b4e524c4129cdd0f06bea, 0⟩ }]
  vout := [{ nValue := 14403000, scriptPubKey := treasuryScript },
           { nValue := 0, scriptPubKey := [0x6a, 3, 1, 2, 3] }]

/-- Two byte strings are transactions. -/
def transaction (bytes : Bytes) : Option CTransaction :=
  if bytes = [1] then some depositTx else if bytes = [2] then some checkpointTx else none

/-- They have different ids. -/
def txid (tx : CTransaction) : Uint256 :=
  if tx.vin = [] then .ofNat 0x7de4aeb747a54bbe6b590d2038f445b9dc995217fb1b4e524c4129cdd0f06bea
  else .ofByte 20

/-- The parent block of the deposit. -/
def depositBlock : CMerkleBlock where
  header := { hashPrevBlock := 0, hashMerkleRoot := .ofByte 20, nBits := 0x1e0376cc }
  txn := { nTransactions := 1, vBits := [true], vHash := [.ofByte 20] }
  nTime_lt := (by decide : 0 < 2 ^ 32)
  nBits_lt := layerTwoLabsBits_lt

/-- A network on which the deposit can be claimed. -/
def depositNetwork : DepositNetwork where
  toDrivechainNetwork := ElementsDrivechain.Sample.network
  peggedAsset := .ofByte 9
  scriptForDestination _ := some [0x52]
  parentTxid bytes := (transaction bytes).map txid
  childTxid tx := tx.hash
  hashing := { txid := txid, headerHash := fun _ => .ofByte 7, hash := fun _ => 0 }
  codec := { transaction := transaction, merkleBlock := fun _ => some depositBlock }
  parentChainPowLimit := layerTwoLabsBmmConsensus.powLimit
  parentTxid_eq _ := rfl
  codec_fits bytes tx h := by
    change transaction bytes = some tx at h
    unfold transaction at h
    split_ifs at h
    · obtain rfl := Option.some.inj h
      exact ⟨by decide, by decide⟩
    · obtain rfl := Option.some.inj h
      exact ⟨by decide, by decide⟩

/-- The items that the witnesses share. -/
def peginItems (value : ℤ) : Child.CScriptWitness :=
  [writeInt64 value, (Uint256.ofByte 9).data, (Uint256.ofByte 2).data, OP_TRUE_SCRIPT]

/-- The claim of the first checkpoint, at height ten. -/
def checkpoint : Deposit where
  tx := {
    vin := [{ prevout :=
      ⟨.ofNat 0x7de4aeb747a54bbe6b590d2038f445b9dc995217fb1b4e524c4129cdd0f06bea, 0⟩
              isPegin := true, index_le := by decide }]
    peginWitness := [peginItems 2000 ++ [ECX_LEGACY_DEPOSIT_MARKER,
      (Uint256.ofNat 0x7de4aeb747a54bbe6b590d2038f445b9dc995217fb1b4e524c4129cdd0f06bea).data]]
    vout := [{ nAsset := .explicit (.ofByte 9), nValue := .explicit 2000, scriptPubKey := [0x52] }]
    hash := .ofNat 0xfeed724d3382997ae6500d8185353e116d557a4f299b58e8f722c1aa400ab730 }
  height := 10

/-- The claim of the deposit after it, at height fifteen. -/
def claim : Deposit where
  tx := {
    vin := [{ prevout := ⟨.ofByte 20, 0⟩, isPegin := true, index_le := by decide }]
    peginWitness := [peginItems 1000 ++ [DRIVECHAIN_DEPOSIT_EVIDENCE_MARKER, [1], [3], [2],
      writeInt64 9, writeInt64 8,
      [1] ++ List.replicate 72 0 ++ writeLE 4 0x1e0376cc ++ List.replicate 4 0]]
    vout := [{ nAsset := .explicit (.ofByte 9), nValue := .explicit 990, scriptPubKey := [0x52] },
             { nAsset := .explicit (.ofByte 9), nValue := .explicit 10, scriptPubKey := [] }] }
  height := 15

/-- The chainstate with the record of the checkpoint. -/
def checkpointView : CCoinsView :=
  setCtipState depositNetwork .empty (checkpoint.next depositNetwork) checkpoint.height

/-- The chainstate with the record of the deposit. -/
def claimView : CCoinsView :=
  setCtipState depositNetwork checkpointView (claim.next depositNetwork) claim.height

theorem verify_checkpoint :
    verifyDeterministicDeposit depositNetwork checkpoint .empty = .ok () := by decide +kernel

theorem verify_claim :
    verifyDeterministicDeposit depositNetwork claim checkpointView = .ok () := by decide +kernel

end Sample

open Deterministic.Sample

/-- A record of height ten is restored with the height fourteen. -/
theorem deposit_disconnect_height :
    Deposit.Connected depositNetwork checkpointView [claim] claimView ∧
      ∃ restored, disconnectDepositState depositNetwork claim claimView =
          .ok restored ∧
        (restored.accessCoin CTIP_STATE_OUTPOINT).map (·.nHeight) = some 14 ∧
        (checkpointView.accessCoin CTIP_STATE_OUTPOINT).map (·.nHeight) = some 10 := by
  obtain ⟨hconnection, hconnect⟩ := Deposit.connect_of_verify verify_claim
  refine ⟨Run.singleton_iff.2 ⟨verify_claim, claimView, hconnect, rfl⟩, ?_⟩
  have hread : getCtipState depositNetwork claimView =
      .ok (some (claim.next depositNetwork)) := by decide +kernel
  obtain ⟨restored, hrestored⟩ := Deposit.disconnect_eq hconnection hread
  refine ⟨restored, hrestored, ?_, by decide +kernel⟩
  rw [Deposit.disconnect_record hrestored]
  decide +kernel

/-- A checkpoint and a claim after it leave no trace. -/
theorem deposit_disconnect_restores_sample :
    Deposit.Connected depositNetwork .empty [checkpoint, claim]
        claimView ∧
      Deposit.Restores depositNetwork .empty [claim, checkpoint]
        claimView := by
  have hrun : Deposit.Connected depositNetwork .empty [checkpoint, claim]
      claimView :=
    Run.cons_iff.2 ⟨checkpointView, ⟨verify_checkpoint, checkpointView,
      (Deposit.connect_of_verify verify_checkpoint).2, rfl⟩, Run.singleton_iff.2
        ⟨verify_claim, claimView,
          (Deposit.connect_of_verify verify_claim).2, rfl⟩⟩
  refine ⟨hrun, (deposit_disconnect_restores _ _ _ _ hrun).2 ⟨?_, ?_⟩⟩
  · simp [Deposit.LastNonNull, Deposit.outpoint, claim]
    decide
  · rintro d hd
    obtain rfl := Option.some.inj hd
    exact .inl (by decide)

end ElementsDrivechain.Deterministic
