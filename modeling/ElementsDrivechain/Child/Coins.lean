import Mathlib.Logic.Function.Basic
import ElementsDrivechain.Child.Transaction

/-!
# The unspent outputs

The chainstate holds the unspent outputs, and beside them some *records* at outpoints that no
transaction may spend.  Connecting a transaction spends its inputs and adds its outputs; what it
spent is kept, and brings the outputs back when the transaction is disconnected.

* `CCoinsView.updateCoins_accessCoin` : what is unspent after a transaction.
* `CCoinsView.disconnect_connectTransactions` : **the transactions of a block leave no trace once
  they are disconnected.**
-/

namespace ElementsDrivechain

/-! ### Reserved outpoints -/

/-- Where the exchange keeps its state. -/
def EXCHANGE_TRACKER_OUTPOINT : COutPoint where
  hash := .ofNat 0xe31f7fb1e9489bfb9f6a73c10f80ecdcce1f276fbdf0cf85c02e3bcf174dc041
  n := 0

/-- Where the forced inbox is kept. -/
def FORCED_INBOX_TRACKER_OUTPOINT : COutPoint where
  hash := .ofNat 0xc3fd019db845c81a68a561f5ab67d92c3ab2505cb2c8212f02511e07e8c2f2a1
  n := 0

/-- Where the deposit inbox is kept. -/
def DEPOSIT_INBOX_TRACKER_OUTPOINT : COutPoint where
  hash := .ofNat 0x0cc4c302121a9d75c8a0e520253c1740520a6d6f4d03db6947a99565175d6586
  n := 0

/-- Where the state of the merged mining is kept. -/
def BMM_STATE_OUTPOINT : COutPoint where
  hash := .ofNat 0xf0bcf7ca88c8a7c66d74d5540d5458ead1a15df5a8b6b98c08032a1300579ff9
  n := 0

/-- Where the treasury output of the deposits is kept. -/
def CTIP_STATE_OUTPOINT : COutPoint where
  hash := .ofNat 0x2d15ce4b128995291c4e38d36b8ae411a15bf80d7acee97cf5f58d2fc4de52b1
  n := 0

/-- A record of the exchange is kept there. -/
def IsExchangeStateInternalOutpoint (o : COutPoint) : Prop :=
  o = EXCHANGE_TRACKER_OUTPOINT ∨ o = FORCED_INBOX_TRACKER_OUTPOINT ∨
    o = DEPOSIT_INBOX_TRACKER_OUTPOINT
deriving Decidable

/-- The state of the merged mining is kept there. -/
def IsBmmStateInternalOutpoint (o : COutPoint) : Prop := o = BMM_STATE_OUTPOINT
deriving Decidable

/-- The treasury output of the deposits is kept there. -/
def IsCtipStateInternalOutpoint (o : COutPoint) : Prop := o = CTIP_STATE_OUTPOINT
deriving Decidable

/-- The outpoint is that of a record. -/
def IsReserved (o : COutPoint) : Prop :=
  IsExchangeStateInternalOutpoint o ∨ IsBmmStateInternalOutpoint o ∨ IsCtipStateInternalOutpoint o
deriving Decidable

/-! ### Coins -/

/-- An unspent output. -/
structure Coin where
  out : Child.CTxOut
  nHeight : ℤ
  fCoinBase : Bool
deriving DecidableEq

/-- No longer script can be run. -/
def MAX_SCRIPT_SIZE : ℕ := 10000

/-- No input can spend the output; the empty script is that of a fee. -/
def IsUnspendable (script : CScript) : Prop :=
  script.head? = some OP_RETURN ∨ MAX_SCRIPT_SIZE < script.length ∨ script = []
deriving Decidable

/-- The unspent outputs of a chainstate. -/
@[ext] structure CCoinsView where
  /-- The unspent output at an outpoint. -/
  accessCoin : COutPoint → Option Coin
  /-- Outputs that cannot be spent are not kept. -/
  spendable : ∀ o coin, accessCoin o = some coin → ¬IsUnspendable coin.out.scriptPubKey

namespace CCoinsView

/-- Nothing is unspent. -/
def empty : CCoinsView where
  accessCoin _ := none
  spendable _ _ h := by cases h

/-- Take a coin out. -/
def spendCoin (view : CCoinsView) (o : COutPoint) : CCoinsView where
  accessCoin := Function.update view.accessCoin o none
  spendable p coin h := by
    by_cases hp : p = o
    · subst hp
      simp at h
    · rw [Function.update_of_ne hp] at h
      exact view.spendable p coin h

/-- Add an output, whatever was there. -/
def addCoin (view : CCoinsView) (o : COutPoint) (coin : Coin) : CCoinsView :=
  if hcoin : IsUnspendable coin.out.scriptPubKey then view
  else
    { accessCoin := Function.update view.accessCoin o (some coin)
      spendable := fun p c h => by
        by_cases hp : p = o
        · subst hp
          rw [Function.update_self] at h
          obtain rfl := Option.some.inj h
          exact hcoin
        · rw [Function.update_of_ne hp] at h
          exact view.spendable p c h }

variable {view view' : CCoinsView} {o p : COutPoint} {coin : Coin}

@[simp] theorem spendCoin_self : (view.spendCoin o).accessCoin o = none := Function.update_self ..

theorem spendCoin_of_ne (h : p ≠ o) : (view.spendCoin o).accessCoin p = view.accessCoin p :=
  Function.update_of_ne h ..

theorem addCoin_self (h : ¬IsUnspendable coin.out.scriptPubKey) :
    (view.addCoin o coin).accessCoin o = some coin := by
  rw [addCoin, dif_neg h]
  exact Function.update_self ..

theorem addCoin_of_ne (h : p ≠ o) : (view.addCoin o coin).accessCoin p = view.accessCoin p := by
  unfold addCoin
  split_ifs
  · rfl
  · exact Function.update_of_ne h ..

theorem addCoin_spendCoin (h : view.accessCoin o = some coin) :
    (view.spendCoin o).addCoin o coin = view := by
  ext1
  funext p
  by_cases hp : p = o
  · subst hp
    rw [addCoin_self (view.spendable _ _ h), h]
  · rw [addCoin_of_ne hp, spendCoin_of_ne hp]

/-! ### Transactions -/

/-- Spend the inputs of a transaction, first input first.  The outputs that were spent are kept; a
peg-in has none, and a record is not spent. -/
def spendInputs : CCoinsView → List Child.CTxIn → Option (CCoinsView × List (Option Coin))
  | view, [] => some (view, [])
  | view, input :: rest =>
    if input.isPegin then
      (spendInputs view rest).map fun r => (r.1, none :: r.2)
    else if IsReserved input.prevout then none
    else (view.accessCoin input.prevout).bind fun coin =>
      (spendInputs (view.spendCoin input.prevout) rest).map fun r => (r.1, some coin :: r.2)

/-- Bring the spent outputs back, last input first. -/
def restoreInputs (view : CCoinsView) : List Child.CTxIn → List (Option Coin) → CCoinsView
  | input :: rest, some coin :: undo =>
    (restoreInputs view rest undo).addCoin input.prevout coin
  | _ :: rest, none :: undo => restoreInputs view rest undo
  | _, _ => view

/-- Add the outputs of a transaction.  An output that is still unspent is never replaced: this is
what the uniqueness of transaction ids (BIP30 and BIP34) comes to. -/
def addOutputs (hash : Uint256) (height : ℤ) (coinbase : Bool) :
    ℕ → List Child.CTxOut → CCoinsView → Option CCoinsView
  | _, [], view => some view
  | i, out :: rest, view =>
    if IsUnspendable out.scriptPubKey then addOutputs hash height coinbase (i + 1) rest view
    else if (view.accessCoin ⟨hash, i⟩).isSome then none
    else addOutputs hash height coinbase (i + 1) rest
      (view.addCoin ⟨hash, i⟩ { out := out, nHeight := height, fCoinBase := coinbase })

/-- Take the outputs of a transaction away. -/
def removeOutputs (hash : Uint256) : ℕ → List Child.CTxOut → CCoinsView → CCoinsView
  | _, [], view => view
  | i, out :: rest, view =>
    if IsUnspendable out.scriptPubKey then removeOutputs hash (i + 1) rest view
    else removeOutputs hash (i + 1) rest (view.spendCoin ⟨hash, i⟩)

/-- Connect a transaction; what it spent is returned for the undo. -/
def updateCoins (view : CCoinsView) (height : ℤ) (tx : Child.CTransaction) :
    Option (CCoinsView × List (Option Coin)) :=
  (if tx.IsCoinBase then some (view, []) else spendInputs view tx.vin).bind fun r =>
    (addOutputs tx.hash height tx.IsCoinBase 0 tx.vout r.1).map fun view => (view, r.2)

/-- Disconnect a transaction. -/
def undoCoins (view : CCoinsView) (tx : Child.CTransaction) (undo : List (Option Coin)) :
    CCoinsView :=
  let view := removeOutputs tx.hash 0 tx.vout view
  if tx.IsCoinBase then view else restoreInputs view tx.vin undo

/-- Connect the transactions of a block, first transaction first. -/
def connectTransactions (height : ℤ) : CCoinsView → List Child.CTransaction →
    Option (CCoinsView × List (List (Option Coin)))
  | view, [] => some (view, [])
  | view, tx :: rest => (updateCoins view height tx).bind fun r =>
    (connectTransactions height r.1 rest).map fun r' => (r'.1, r.2 :: r'.2)

/-- Disconnect the transactions of a block, last transaction first. -/
def disconnectTransactions (view : CCoinsView) : List Child.CTransaction →
    List (List (Option Coin)) → CCoinsView
  | tx :: rest, undo :: undos => (disconnectTransactions view rest undos).undoCoins tx undo
  | _, _ => view

/-! ### What is unspent -/

/-- The outpoints that the inputs spend. -/
def spentOutpoints (inputs : List Child.CTxIn) : List COutPoint :=
  (inputs.filter (¬·.isPegin)).map (·.prevout)

/-- An output that can be spent. -/
def spendableOutput (out : Child.CTxOut) : Option Child.CTxOut :=
  if IsUnspendable out.scriptPubKey then none else some out

/-- The output that is added at an outpoint. -/
def createdOutput (hash : Uint256) (i : ℕ) (outs : List Child.CTxOut) (o : COutPoint) :
    Option Child.CTxOut :=
  if o.hash = hash ∧ i ≤ o.n then outs[o.n - i]?.bind spendableOutput else none

variable {input : Child.CTxIn} {inputs : List Child.CTxIn} {undo : List (Option Coin)}
  {outs : List Child.CTxOut} {hash : Uint256} {height : ℤ} {coinbase : Bool} {i : ℕ}

theorem mem_spentOutpoints :
    o ∈ spentOutpoints inputs ↔ ∃ input ∈ inputs, input.isPegin = false ∧ input.prevout = o := by
  simp [spentOutpoints, and_assoc]

theorem spentOutpoints_cons_pegin (h : input.isPegin = true) :
    spentOutpoints (input :: inputs) = spentOutpoints inputs := by
  simp [spentOutpoints, h]

theorem spentOutpoints_cons (h : input.isPegin = false) :
    spentOutpoints (input :: inputs) = input.prevout :: spentOutpoints inputs := by
  simp [spentOutpoints, h]

/-- **The inputs were unspent, and are all that is spent.** -/
theorem spendInputs_spec (h : spendInputs view inputs = some (view', undo)) :
    (∀ o ∈ spentOutpoints inputs, (view.accessCoin o).isSome ∧ ¬IsReserved o) ∧
      (∀ o, view'.accessCoin o = if o ∈ spentOutpoints inputs then none else view.accessCoin o) ∧
      restoreInputs view' inputs undo = view := by
  induction inputs generalizing view undo with
  | nil =>
    cases h
    simp [spentOutpoints, restoreInputs]
  | cons input rest ih =>
    rw [spendInputs] at h
    split_ifs at h with hpegin hreserved
    · obtain ⟨⟨v, u⟩, hrest, hr⟩ := Option.map_eq_some_iff.1 h
      cases hr
      rw [spentOutpoints_cons_pegin hpegin]
      exact ih hrest
    · obtain ⟨coin, hcoin, h⟩ := Option.bind_eq_some_iff.1 h
      obtain ⟨⟨v, u⟩, hrest, hr⟩ := Option.map_eq_some_iff.1 h
      cases hr
      obtain ⟨hspent, haccess, hrestore⟩ := ih hrest
      rw [spentOutpoints_cons (by simpa using hpegin)]
      refine ⟨?_, ?_, ?_⟩
      · intro o ho
        rcases List.mem_cons.1 ho with rfl | ho
        · simp [hcoin, hreserved]
        · refine ⟨?_, (hspent o ho).2⟩
          have hsome := (hspent o ho).1
          by_cases hne : o = input.prevout
          · rw [hne, hcoin]
            rfl
          · rwa [spendCoin_of_ne hne] at hsome
      · intro o
        rw [haccess]
        by_cases hne : o = input.prevout
        · simp [hne]
        · simp [hne, spendCoin_of_ne hne]
      · rw [restoreInputs, hrestore, addCoin_spendCoin hcoin]

theorem createdOutput_cons (out : Child.CTxOut) (o : COutPoint) :
    createdOutput hash i (out :: outs) o =
      if o = ⟨hash, i⟩ then spendableOutput out else createdOutput hash (i + 1) outs o := by
  obtain ⟨h, n⟩ := o
  unfold createdOutput
  by_cases hhash : h = hash
  · subst hhash
    rcases lt_trichotomy n i with hlt | rfl | hgt
    · simp [hlt.ne, not_le.2 hlt, not_le.2 (hlt.trans (Nat.lt_succ_self i))]
    · simp
    · have hsub : n - i = (n - (i + 1)) + 1 := by omega
      simp [hgt.ne', hgt.le, hsub, Nat.succ_le_of_lt hgt]
  · simp [hhash]

theorem createdOutput_succ_self : createdOutput hash (i + 1) outs ⟨hash, i⟩ = none := by
  simp [createdOutput]

/-- **The outputs are added, and nothing else is changed.** -/
theorem addOutputs_spec (h : addOutputs hash height coinbase i outs view = some view') (o) :
    view'.accessCoin o = match createdOutput hash i outs o with
      | some out => some { out := out, nHeight := height, fCoinBase := coinbase }
      | none => view.accessCoin o := by
  induction outs generalizing view i with
  | nil =>
    cases h
    simp [createdOutput]
  | cons out rest ih =>
    rw [addOutputs] at h
    rw [createdOutput_cons, spendableOutput]
    split_ifs at h with hout hunspent
    · rw [ih h, if_pos hout]
      split_ifs with ho
      · rw [ho, createdOutput_succ_self]
      · rfl
    · rw [ih h, if_neg hout]
      split_ifs with ho
      · rw [ho, createdOutput_succ_self]
        exact addCoin_self hout
      · rw [addCoin_of_ne ho]

theorem addOutputs_fresh (h : addOutputs hash height coinbase i outs view = some view')
    (ho : (createdOutput hash i outs o).isSome) : view.accessCoin o = none := by
  induction outs generalizing view i with
  | nil => simp [createdOutput] at ho
  | cons out rest ih =>
    rw [addOutputs] at h
    rw [createdOutput_cons, spendableOutput] at ho
    split_ifs at h with hout hunspent
    · split_ifs at ho
      · cases ho
      · exact ih h ho
    · split_ifs at ho with hne
      · rw [hne]
        simpa using hunspent
      · have := ih h ho
        rwa [addCoin_of_ne hne] at this

theorem removeOutputs_spec :
    (removeOutputs hash i outs view).accessCoin o =
      if (createdOutput hash i outs o).isSome then none else view.accessCoin o := by
  induction outs generalizing view i with
  | nil => simp [createdOutput, removeOutputs]
  | cons out rest ih =>
    rw [removeOutputs, createdOutput_cons, spendableOutput]
    by_cases hout : IsUnspendable out.scriptPubKey
    · rw [if_pos hout, if_pos hout, ih]
      by_cases ho : o = ⟨hash, i⟩
      · simp [ho, createdOutput_succ_self]
      · rw [if_neg ho]
    · rw [if_neg hout, if_neg hout, ih]
      by_cases ho : o = ⟨hash, i⟩
      · simp [ho, createdOutput_succ_self]
      · rw [if_neg ho, spendCoin_of_ne ho]

theorem removeOutputs_addOutputs
    (h : addOutputs hash height coinbase i outs view = some view') :
    removeOutputs hash i outs view' = view := by
  ext1
  funext o
  rw [removeOutputs_spec, addOutputs_spec h]
  cases hcreated : createdOutput hash i outs o with
  | none => simp
  | some out => simp [addOutputs_fresh h (o := o) (by simp [hcreated])]

end CCoinsView

/-! ### What a transaction does -/

/-- The outpoints that a transaction spends. -/
def Child.CTransaction.spent (tx : Child.CTransaction) : List COutPoint :=
  if tx.IsCoinBase then [] else CCoinsView.spentOutpoints tx.vin

/-- The output that a transaction adds at an outpoint. -/
def Child.CTransaction.created (tx : Child.CTransaction) (o : COutPoint) : Option Child.CTxOut :=
  CCoinsView.createdOutput tx.hash 0 tx.vout o

namespace CCoinsView

variable {view view' : CCoinsView} {o : COutPoint} {height : ℤ} {tx : Child.CTransaction}
  {txs : List Child.CTransaction} {undo : List (Option Coin)} {undos : List (List (Option Coin))}

theorem updateCoins_eq_some (h : view.updateCoins height tx = some (view', undo)) :
    ∃ mid, addOutputs tx.hash height tx.IsCoinBase 0 tx.vout mid = some view' ∧
      (∀ o ∈ tx.spent, (view.accessCoin o).isSome ∧ ¬IsReserved o) ∧
      (∀ o, mid.accessCoin o = if o ∈ tx.spent then none else view.accessCoin o) ∧
      (if tx.IsCoinBase then mid else restoreInputs mid tx.vin undo) = view := by
  obtain ⟨⟨mid, u⟩, hspend, h⟩ := Option.bind_eq_some_iff.1 h
  obtain ⟨view'', hadd, hr⟩ := Option.map_eq_some_iff.1 h
  cases hr
  refine ⟨mid, hadd, ?_⟩
  unfold Child.CTransaction.spent
  split_ifs at hspend ⊢ with hcoinbase
  · cases hspend
    simp
  · exact spendInputs_spec hspend

/-- **What is unspent after a transaction**: what it adds, and what was unspent and it does not
spend. -/
theorem updateCoins_accessCoin (h : view.updateCoins height tx = some (view', undo)) (o) :
    view'.accessCoin o = match tx.created o with
      | some out => some { out := out, nHeight := height, fCoinBase := tx.IsCoinBase }
      | none => if o ∈ tx.spent then none else view.accessCoin o := by
  obtain ⟨mid, hadd, -, hmid, -⟩ := updateCoins_eq_some h
  rw [addOutputs_spec hadd, hmid]
  rfl

theorem updateCoins_fresh (h : view.updateCoins height tx = some (view', undo))
    (ho : (tx.created o).isSome) : o ∈ tx.spent ∨ view.accessCoin o = none := by
  obtain ⟨mid, hadd, -, hmid, -⟩ := updateCoins_eq_some h
  have hnone := addOutputs_fresh hadd ho
  rw [hmid] at hnone
  split_ifs at hnone with hspent
  · exact .inl hspent
  · exact .inr hnone

theorem undoCoins_updateCoins (h : view.updateCoins height tx = some (view', undo)) :
    view'.undoCoins tx undo = view := by
  obtain ⟨mid, hadd, -, -, hrestore⟩ := updateCoins_eq_some h
  rw [undoCoins, removeOutputs_addOutputs hadd]
  exact hrestore

/-- **The transactions of a block leave no trace once they are disconnected.** -/
theorem disconnect_connectTransactions
    (h : connectTransactions height view txs = some (view', undos)) :
    view'.disconnectTransactions txs undos = view := by
  induction txs generalizing view undos with
  | nil =>
    cases h
    rfl
  | cons tx rest ih =>
    obtain ⟨⟨mid, undo⟩, htx, h⟩ := Option.bind_eq_some_iff.1 h
    obtain ⟨⟨last, us⟩, hrest, hr⟩ := Option.map_eq_some_iff.1 h
    cases hr
    rw [disconnectTransactions, ih hrest, undoCoins_updateCoins htx]

end CCoinsView

end ElementsDrivechain
