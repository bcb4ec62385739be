import Mathlib.Data.Finset.Basic
import ElementsDrivechain.Child.Coins
import ElementsDrivechain.Peg.Witness

/-!
# Connecting and disconnecting peg-ins

The chainstate remembers which peg-ins the active chain has claimed.  Connecting a block checks
every peg-in input and marks it; disconnecting a block takes its marks away, without asking the
parent chain again.  The coins of ordinary inputs and the checks that have nothing to do with
peg-ins are not followed: what they answer is part of the environment of a check, and nothing is
assumed of it.

* `checkTxInputs_spec` : an accepted transaction claims new deposits, each confirmed.
* `connectBlock_spec` : a connected block puts the marks of its peg-ins.
* `disconnectBlock_spec`, `disconnectBlock_clean` : a block takes its own marks away when it is
  disconnected, without asking the parent chain.
-/

namespace ElementsDrivechain

open Fallible

/-! ### Transactions -/

/-- In which way a transaction is invalid. -/
inductive TxValidationResult
  | TX_CONSENSUS
  | TX_WITNESS_MUTATED
  | TX_MISSING_INPUTS
  | TX_PREMATURE_SPEND
deriving DecidableEq, Repr

/-- How the check of a transaction fails: the transaction is invalid, or it cannot be checked. -/
inductive TxFailure
  | invalid (result : TxValidationResult) (reason debug : String)
  | error (reason : String)

/-- How the connection of a block fails. -/
inductive BlockFailure
  | invalid (reason debug : String)
  | error (reason : String)

/-- The output of a coinbase can be spent after so many blocks. -/
def COINBASE_MATURITY : ℤ := 100

/-- What the check of a transaction is told from outside. -/
structure TxEnvironment where
  /-- The unspent outputs. -/
  accessCoin : COutPoint → Option Coin
  /-- The state in which the parent chain is asked about each input. -/
  parent : ℕ → Session
  /-- The check of a deposit in the format of the other network, at each input. -/
  verifyDeterministicDeposit : ℕ → Except String Unit
  hasValidFee : Bool
  /-- The amounts add up, given the spent outputs. -/
  verifyAmounts : List Child.CTxOut → Bool
  /-- The fees of the block so far are a sum of money. -/
  feesInRange : Bool
  /-- The answer of the remaining checks of the transaction in its block. -/
  otherChecks : Except BlockFailure Unit

section Transaction

variable (C : PegParameters) (H : ParentHashing)

/-- The key of a peg-in input. -/
def Child.InputAt.key (x : Child.InputAt) : PeginKey :=
  getPeginSpentKey C x.stack x.input.prevout

/-- The witness of a peg-in input, checked. -/
def checkPeginWitness (env : TxEnvironment) (tx : Child.CTransaction) (nSpendHeight : ℤ)
    (x : Child.InputAt) : Except TxFailure Unit :=
  if tx.peginWitness.length ≤ x.index then
    throw (.invalid .TX_WITNESS_MUTATED "bad-pegin-witness" "")
  else
    match isValidPeginWitness C H (env.parent x.index) x.stack x.input.prevout nSpendHeight with
    | .ok _ => pure ()
    | .error rejection =>
      if rejection.parentUnavailable then
        throw (.error s!"drivechain parent state unavailable: {rejection.err}")
      else throw (.invalid .TX_WITNESS_MUTATED "bad-pegin-witness" rejection.err)

/-- The outputs beside a deposit, checked. -/
def checkDepositOutputs (env : TxEnvironment) (tx : Child.CTransaction) (x : Child.InputAt) :
    Except TxFailure Unit :=
  if isDrivechainDepositPeginWitness C x.stack x.input.prevout then
    match if x.stack.length = 8 then checkDrivechainDepositOutputs C tx x.index
      else env.verifyDeterministicDeposit x.index with
    | .ok _ => pure ()
    | .error e => throw (.invalid .TX_CONSENSUS "bad-drivechain-deposit" e)
  else pure ()

/-- The check of a peg-in input, given the marks of the chainstate and those of the block. -/
def checkPeginInput (env : TxEnvironment) (tx : Child.CTransaction) (nSpendHeight : ℤ)
    (peginSpent setPeginsSpent : Finset PeginKey) (x : Child.InputAt) :
    Except TxFailure (Finset PeginKey × Child.CTxOut) := do
  checkPeginWitness C H env tx nSpendHeight x
  checkDepositOutputs C env tx x
  let hash := x.input.prevout.hash.getHex
  let n := x.input.prevout.n
  rejectIf (x.key C ∈ peginSpent)
    (.invalid .TX_CONSENSUS "bad-txns-double-pegin" s!"Double-pegin of {hash}:{n}")
  rejectIf (x.key C ∈ setPeginsSpent)
    (.invalid .TX_CONSENSUS "bad-txns-double-pegin-in-obj"
      s!"Double-pegin of {hash}:{n} in single tx/block")
  let out := getPeginOutputFromWitness x.stack
  rejectIf (∃ value ∈ out.explicitValue, ¬MoneyRange value)
    (.invalid .TX_CONSENSUS "bad-txns-inputvalues-outofrange" "")
  return (insert (x.key C) setPeginsSpent, out)

/-- The check of an ordinary input. -/
def checkCoinInput (env : TxEnvironment) (nSpendHeight : ℤ) (x : Child.InputAt) :
    Except TxFailure Child.CTxOut := do
  let coin ← orReject (env.accessCoin x.input.prevout)
    (.invalid .TX_MISSING_INPUTS "bad-txns-inputs-missingorspent"
      "CheckTxInputs: inputs missing/spent")
  rejectIf (coin.fCoinBase ∧ nSpendHeight - coin.nHeight < COINBASE_MATURITY)
    (.invalid .TX_PREMATURE_SPEND "bad-txns-premature-spend-of-coinbase"
      s!"tried to spend coinbase at depth {nSpendHeight - coin.nHeight}")
  return coin.out

/-- The check of an input, with the marks of the block and the spent outputs so far. -/
def checkInput (env : TxEnvironment) (tx : Child.CTransaction) (nSpendHeight : ℤ)
    (peginSpent : Finset PeginKey) (acc : Finset PeginKey × List Child.CTxOut) (x : Child.InputAt) :
    Except TxFailure (Finset PeginKey × List Child.CTxOut) :=
  if x.input.isPegin then do
    let (setPeginsSpent, out) ← checkPeginInput C H env tx nSpendHeight peginSpent acc.1 x
    return (setPeginsSpent, acc.2 ++ [out])
  else do
    let out ← checkCoinInput env nSpendHeight x
    return (acc.1, acc.2 ++ [out])

/-- The records of the chainstate are not spent. -/
def checkInternalOutpoint (input : Child.CTxIn) : Except TxFailure Unit := do
  rejectIf (input.isPegin = false ∧ IsExchangeStateInternalOutpoint input.prevout)
    (.invalid .TX_CONSENSUS "bad-ecx-internal-state-spend"
      "transaction attempted to spend the reserved ECX chainstate record")
  rejectIf (input.isPegin = false ∧
      (IsBmmStateInternalOutpoint input.prevout ∨ IsCtipStateInternalOutpoint input.prevout))
    (.invalid .TX_CONSENSUS "bad-drivechain-internal-state-spend"
      "transaction attempted to spend a reserved drivechain chainstate record")

/-- The check of the inputs of a transaction, given the marks of the chainstate and those of the
block; the latter are returned with those of the transaction. -/
def checkTxInputs (env : TxEnvironment) (tx : Child.CTransaction) (nSpendHeight : ℤ)
    (peginSpent setPeginsSpent : Finset PeginKey) : Except TxFailure (Finset PeginKey) := do
  tx.vin.forM checkInternalOutpoint
  rejectIf (∃ input ∈ tx.vin, input.isPegin = false ∧ (env.accessCoin input.prevout).isNone)
    (.invalid .TX_MISSING_INPUTS "bad-txns-inputs-missingorspent"
      "CheckTxInputs: inputs missing/spent")
  let acc ← tx.inputs.foldlM (checkInput C H env tx nSpendHeight peginSpent) (setPeginsSpent, [])
  rejectIf (¬env.hasValidFee) (.invalid .TX_CONSENSUS "bad-txns-fee-outofrange" "")
  rejectIf (¬env.verifyAmounts acc.2)
    (.invalid .TX_CONSENSUS "bad-txns-in-ne-out" "value in != value out")
  rejectIf (¬env.feesInRange) (.invalid .TX_CONSENSUS "bad-block-total-fee-outofrange" "")
  return acc.1

/-- Mark the peg-ins of a transaction: what `UpdateCoins` does about them. -/
def markPegins (peginSpent : Finset PeginKey) (tx : Child.CTransaction) : Finset PeginKey :=
  if tx.IsCoinBase then peginSpent
  else tx.inputs.foldl (fun marks x => if x.input.isPegin then insert (x.key C) marks else marks)
    peginSpent

/-- Take the mark of an input away; the undo is not clean when it has no proof or no mark. -/
def applyTxInUndo (parent : Session) (acc : Bool × Finset PeginKey) (x : Child.InputAt) :
    Bool × Finset PeginKey :=
  if x.input.isPegin then
    -- the parent chain is not asked again about a native deposit
    if isDrivechainDepositPeginWitness C x.stack x.input.prevout = true ∨
        (isValidPeginWitness C H parent x.stack x.input.prevout (-1)).isOk then
      if x.key C ∈ acc.2 then (acc.1, acc.2.erase (x.key C)) else (false, acc.2)
    else (false, acc.2)
  else acc

/-! ### Blocks -/

/-- A block of the sidechain. -/
structure ChildBlock where
  nHeight : ℤ
  vtx : List Child.CTransaction

/-- The check of a transaction in its block. -/
def checkTransaction (env : TxEnvironment) (tx : Child.CTransaction) (nHeight : ℤ)
    (marks : Finset PeginKey × Finset PeginKey) : Except BlockFailure (Finset PeginKey) :=
  if tx.IsCoinBase then pure marks.2
  else
    match checkTxInputs C H env tx nHeight marks.1 marks.2 with
    | .ok setPeginsSpent => pure setPeginsSpent
    | .error (.error reason) =>
      let txid := (C.childTxid tx).getHex
      throw (.error s!"Consensus::CheckTxInputs unavailable for {txid}: {reason}")
    | .error (.invalid _ reason debug) =>
      throw (.invalid reason s!"{debug} in transaction {(C.childTxid tx).getHex}")

/-- Check and connect a transaction; the marks are those of the chainstate and of the block. -/
def connectTransaction (env : TxEnvironment) (nHeight : ℤ)
    (marks : Finset PeginKey × Finset PeginKey) (tx : Child.CTransaction) :
    Except BlockFailure (Finset PeginKey × Finset PeginKey) := do
  let setPeginsSpent ← checkTransaction C H env tx nHeight marks
  env.otherChecks
  return (markPegins C marks.1 tx, setPeginsSpent)

/-- Connect a block to a chainstate with the given marks. -/
def connectBlock (env : ℕ → TxEnvironment) (block : ChildBlock) (peginSpent : Finset PeginKey) :
    Except BlockFailure (Finset PeginKey) := do
  rejectIf (¬∃ tx ∈ block.vtx.head?, tx.IsCoinBase)
    (.invalid "bad-cb-missing" "first tx is not coinbase")
  rejectIf (∃ tx ∈ block.vtx.tail, tx.IsCoinBase)
    (.invalid "bad-cb-multiple" "more than one coinbase")
  let marks ← block.vtx.zipIdx.foldlM (fun marks (tx, i) =>
    connectTransaction C H (env i) block.nHeight marks tx) (peginSpent, ∅)
  return marks.1

/-- Take the marks of a block away, last transaction and last input first. -/
def disconnectBlock (parent : ℕ → ℕ → Session) (block : ChildBlock)
    (peginSpent : Finset PeginKey) : Bool × Finset PeginKey :=
  (block.vtx.tail.zipIdx 1).foldr (fun (tx, i) acc =>
    tx.inputs.foldr (fun x acc => applyTxInUndo C H (parent i x.index) acc x) acc)
    (true, peginSpent)

end Transaction

/-- The peg-in inputs of a block. -/
def ChildBlock.pegins (block : ChildBlock) : List Child.InputAt := block.vtx.flatMap (·.pegins)

/-! ### What is accepted -/

section Spec

variable {C : PegParameters} {H : ParentHashing} {env : TxEnvironment} {tx : Child.CTransaction}
  {nHeight : ℤ} {peginSpent setPeginsSpent : Finset PeginKey} {x : Child.InputAt}

/-- The input claims a deposit that was confirmed when it was checked. -/
def AcceptedPegin (C : PegParameters) (H : ParentHashing) (env : TxEnvironment)
    (tx : Child.CTransaction) (nHeight : ℤ) (x : Child.InputAt) : Prop :=
  ∃ deposit, DepositTransaction C tx x deposit ∧
    (depositStatus C.toDrivechainNetwork H (env.parent x.index)
      (deposit.claim C x.input.prevout nHeight)).1 = .VALID

/-- **An accepted peg-in claims a confirmed deposit**, and has no mark yet. -/
theorem checkPeginInput_spec {r : Finset PeginKey × Child.CTxOut} (hx : x ∈ tx.inputs)
    (h : checkPeginInput C H env tx nHeight peginSpent setPeginsSpent x = .ok r) :
    AcceptedPegin C H env tx nHeight x ∧ x.key C ∉ peginSpent ∧ x.key C ∉ setPeginsSpent ∧
      r.1 = insert (x.key C) setPeginsSpent := by
  simp only [checkPeginInput, bind_eq_ok, rejectIf_eq_ok, pure_eq_ok] at h
  obtain ⟨_, hwitness, _, houtputs, _, hspent, _, hset, _, -, rfl⟩ := h
  refine ⟨?_, hspent, hset, rfl⟩
  have hvalid : isValidPeginWitness C H (env.parent x.index) x.stack x.input.prevout nHeight =
      .ok () := by
    unfold checkPeginWitness at hwitness
    split_ifs at hwitness
    split at hwitness
    · assumption
    · split_ifs at hwitness
  obtain ⟨deposit, hnative, hstatus⟩ := isValidPeginWitness_spec hvalid
  have hlength := (nativeDepositPegin_eq_some hnative).1
  have hcheck : checkDrivechainDepositOutputs C tx x.index = .ok () := by
    simp only [checkDepositOutputs, isDrivechainDeposit_of_native hnative, hlength, if_true]
      at houtputs
    split at houtputs
    · assumption
    · simp at houtputs
  obtain ⟨deposit', htx⟩ := checkDrivechainDepositOutputs_spec
    (Child.CTransaction.of_mem_inputs hx).1 hcheck
  obtain rfl : deposit = deposit' := Option.some.inj (hnative.symm.trans htx.native)
  exact ⟨deposit, htx, hstatus⟩

/-- The marks of some peg-ins, put beside those of the chainstate. -/
structure Marked (C : PegParameters) (peginSpent : Finset PeginKey) (xs : List Child.InputAt)
    (marks : Finset PeginKey) : Prop where
  nodup : (xs.map (·.key C)).Nodup
  fresh : ∀ x ∈ xs, x.key C ∉ peginSpent
  /-- The marks of the inputs are added. -/
  eq : marks = peginSpent ∪ (xs.map (·.key C)).toFinset

theorem Marked.nil : Marked C peginSpent [] peginSpent where
  nodup := .nil
  fresh := by simp
  eq := by simp

theorem Marked.append {xs ys : List Child.InputAt} {marks marks' : Finset PeginKey}
    (h : Marked C peginSpent xs marks) (h' : Marked C marks ys marks') :
    Marked C peginSpent (xs ++ ys) marks' where
  nodup := by
    rw [List.map_append]
    refine h.nodup.append h'.nodup fun key hx hkey => ?_
    obtain ⟨y, hy, rfl⟩ := List.mem_map.1 hkey
    exact h'.fresh y hy (by rw [h.eq]; exact Finset.mem_union_right _ (List.mem_toFinset.2 hx))
  fresh := by
    intro x hx
    rcases List.mem_append.1 hx with hx | hx
    · exact h.fresh x hx
    · intro hspent
      exact h'.fresh x hx (by rw [h.eq]; simp [hspent])
  eq := by
    ext key
    simp [h'.eq, h.eq]

/-- An accepted transaction: its peg-ins are accepted, with new and different keys. -/
structure TxAccepted (C : PegParameters) (H : ParentHashing) (env : TxEnvironment)
    (tx : Child.CTransaction) (nHeight : ℤ) (peginSpent : Finset PeginKey) : Prop where
  accepted : ∀ x ∈ tx.pegins, AcceptedPegin C H env tx nHeight x
  nodup : (tx.pegins.map (·.key C)).Nodup
  fresh : ∀ x ∈ tx.pegins, x.key C ∉ peginSpent

/-- **An accepted transaction claims new deposits, each confirmed.** -/
theorem checkTxInputs_spec {set' : Finset PeginKey}
    (h : checkTxInputs C H env tx nHeight peginSpent setPeginsSpent = .ok set') :
    TxAccepted C H env tx nHeight peginSpent := by
  simp only [checkTxInputs, bind_eq_ok] at h
  obtain ⟨_, -, _, -, acc, hloop, -⟩ := h
  -- the inputs so far are accepted, and the marks of the block hold their keys
  have hinv := foldlM_induction (motive := fun done acc =>
    (∀ x ∈ done.filter (·.input.isPegin), AcceptedPegin C H env tx nHeight x ∧
      x.key C ∉ peginSpent) ∧
    Marked C setPeginsSpent (done.filter (·.input.isPegin)) acc.1) hloop ⟨by simp, .nil⟩ ?_
  · exact ⟨fun x hx => (hinv.1 x hx).1, hinv.2.nodup, fun x hx => (hinv.1 x hx).2⟩
  rintro done x acc acc' hpre ⟨haccepted, hmarked⟩ hstep
  rw [List.filter_append]
  unfold checkInput at hstep
  split_ifs at hstep with hpegin
  · simp only [bind_eq_ok, pure_eq_ok] at hstep
    obtain ⟨r, hcheck, rfl⟩ := hstep
    have hx : x ∈ tx.inputs := hpre.subset (by simp)
    obtain ⟨hx, hspent, hset, hmarks⟩ := checkPeginInput_spec hx hcheck
    rw [List.filter_singleton, hpegin, cond_true]
    refine ⟨fun y hy => ?_, hmarked.append ⟨List.nodup_singleton _, ?_, ?_⟩⟩
    · rcases List.mem_append.1 hy with hy | hy
      · exact haccepted y hy
      · rw [List.mem_singleton.1 hy]
        exact ⟨hx, hspent⟩
    · simpa using hset
    · ext key
      simp [hmarks, or_comm]
  · simp only [bind_eq_ok, pure_eq_ok] at hstep
    obtain ⟨out, -, rfl⟩ := hstep
    rw [List.filter_singleton, eq_false_of_ne_true hpegin, cond_false, List.append_nil]
    exact ⟨haccepted, hmarked⟩

theorem markPegins_eq (C : PegParameters) (peginSpent : Finset PeginKey)
    (tx : Child.CTransaction) :
    markPegins C peginSpent tx = peginSpent ∪ (tx.pegins.map (·.key C)).toFinset := by
  unfold markPegins
  split_ifs with hcoinbase
  · simp [hcoinbase.pegins_eq_nil]
  · unfold Child.CTransaction.pegins
    induction tx.inputs generalizing peginSpent with
    | nil => simp
    | cons x xs ih =>
      rw [List.foldl_cons, ih]
      by_cases hpegin : x.input.isPegin = true
      · ext key
        simp only [hpegin, if_true, List.filter_cons_of_pos, List.map_cons, List.toFinset_cons,
          Finset.mem_union, Finset.mem_insert]
        tauto
      · simp [hpegin]

theorem connectTransaction_spec {marks marks' : Finset PeginKey × Finset PeginKey}
    (h : connectTransaction C H env nHeight marks tx = .ok marks') :
    (∀ x ∈ tx.pegins, AcceptedPegin C H env tx nHeight x) ∧
      Marked C marks.1 tx.pegins marks'.1 := by
  simp only [connectTransaction, bind_eq_ok, pure_eq_ok] at h
  obtain ⟨set', hcheck, _, -, rfl⟩ := h
  by_cases hcoinbase : tx.IsCoinBase
  · simp only [hcoinbase.pegins_eq_nil, markPegins, if_pos hcoinbase]
    exact ⟨by simp, .nil⟩
  · have haccepted : TxAccepted C H env tx nHeight marks.1 := by
      unfold checkTransaction at hcheck
      rw [if_neg hcoinbase] at hcheck
      split at hcheck
      next set hset => exact checkTxInputs_spec hset
      all_goals simp at hcheck
    exact ⟨haccepted.accepted, haccepted.nodup, haccepted.fresh, markPegins_eq ..⟩

/-- What a connected block is: its first transaction is the coinbase, every peg-in was accepted in
the environment of its transaction, and all of them have new and different keys. -/
structure BlockAccepted (C : PegParameters) (H : ParentHashing) (env : ℕ → TxEnvironment)
    (block : ChildBlock) (peginSpent marks : Finset PeginKey) : Prop where
  coinbase : ∀ tx ∈ block.vtx.head?, tx.IsCoinBase
  accepted : ∀ tx ∈ block.vtx, ∀ x ∈ tx.pegins, ∃ i, AcceptedPegin C H (env i) tx block.nHeight x
  marked : Marked C peginSpent block.pegins marks

/-- **A connected block puts the marks of its peg-ins.** -/
theorem connectBlock_spec {env : ℕ → TxEnvironment} {block : ChildBlock}
    {marks : Finset PeginKey} (h : connectBlock C H env block peginSpent = .ok marks) :
    BlockAccepted C H env block peginSpent marks := by
  simp only [connectBlock, bind_eq_ok, rejectIf_eq_ok, pure_eq_ok, not_not] at h
  obtain ⟨_, ⟨first, hfirst, hcoinbase⟩, _, -, all, hloop, rfl⟩ := h
  have hinv := foldlM_induction (motive := fun done marks =>
    (∀ p ∈ done, ∀ x ∈ p.1.pegins, AcceptedPegin C H (env p.2) p.1 block.nHeight x) ∧
    Marked C peginSpent (done.flatMap (·.1.pegins)) marks.1) hloop ⟨by simp, .nil⟩ ?_
  · obtain ⟨haccepted, hmarked⟩ := hinv
    refine ⟨fun tx htx => ?_, fun tx htx x hx => ?_, ?_⟩
    · rwa [Option.some.inj (htx.symm.trans hfirst)]
    · obtain ⟨i, hi⟩ := List.mem_iff_getElem?.1 htx
      refine ⟨i, haccepted (tx, i) ?_ x hx⟩
      rw [List.mem_zipIdx_iff_getElem?]
      exact hi
    · have hpegins : block.vtx.zipIdx.flatMap (·.1.pegins) = block.pegins := by
        conv_rhs => rw [ChildBlock.pegins, ← List.zipIdx_map_fst 0 block.vtx, List.flatMap_map]
      rwa [hpegins] at hmarked
  · rintro done ⟨tx, i⟩ marks marks' - ⟨haccepted, hmarked⟩ hstep
    obtain ⟨htx, htxMarked⟩ := connectTransaction_spec hstep
    rw [List.flatMap_append, List.flatMap_singleton]
    refine ⟨fun p hp => ?_, hmarked.append htxMarked⟩
    rcases List.mem_append.1 hp with hp | hp
    · exact haccepted p hp
    · rw [List.mem_singleton.1 hp]
      exact htx

/-! ### What an undo does -/

/-- A clean undo takes the marks of the given peg-ins away, and they were there. -/
structure Unmarked (C : PegParameters) (acc : Bool × Finset PeginKey) (xs : List Child.InputAt)
    (acc' : Bool × Finset PeginKey) : Prop where
  clean : acc'.1 = true → acc.1 = true
  /-- The marks of the inputs are taken away. -/
  eq : acc'.1 = true → acc'.2 = acc.2 \ (xs.map (·.key C)).toFinset

theorem Unmarked.refl {acc : Bool × Finset PeginKey} : Unmarked C acc [] acc where
  clean := id
  eq := by simp

theorem Unmarked.append {acc acc' acc'' : Bool × Finset PeginKey} {xs ys : List Child.InputAt}
    (h : Unmarked C acc ys acc') (h' : Unmarked C acc' xs acc'') :
    Unmarked C acc (xs ++ ys) acc'' where
  clean := fun hclean => h.clean (h'.clean hclean)
  eq := by
    intro hclean
    ext key
    rw [h'.eq hclean, h.eq (h'.clean hclean), List.map_append]
    simp only [Finset.mem_sdiff, List.mem_toFinset, List.mem_append]
    tauto

theorem applyTxInUndo_spec (C : PegParameters) (H : ParentHashing) (parent : Session)
    (acc : Bool × Finset PeginKey) (x : Child.InputAt) :
    Unmarked C acc ([x].filter (·.input.isPegin)) (applyTxInUndo C H parent acc x) := by
  unfold applyTxInUndo
  split_ifs with hpegin hvalid hmarked
  · exact ⟨id, fun _ => by simp [hpegin, Finset.erase_eq]⟩
  · exact ⟨by simp, by simp⟩
  · exact ⟨by simp, by simp⟩
  · simpa [hpegin] using Unmarked.refl

/-- The inputs of a block, in the order in which they are connected, each with the position of its
transaction. -/
def connectedInputs (block : ChildBlock) : List (ℕ × Child.InputAt) :=
  (block.vtx.tail.zipIdx 1).flatMap fun (tx, i) => tx.inputs.map fun x => (i, x)

variable (C H) (parent : ℕ → ℕ → Session)

/-- The undo of some inputs, the last one first. -/
def undoInputs (acc : Bool × Finset PeginKey) (ps : List (ℕ × Child.InputAt)) :
    Bool × Finset PeginKey :=
  ps.foldr (fun p acc => applyTxInUndo C H (parent p.1 p.2.index) acc p.2) acc

theorem disconnectBlock_eq (block : ChildBlock) (peginSpent : Finset PeginKey) :
    disconnectBlock C H parent block peginSpent =
      undoInputs C H parent (true, peginSpent) (connectedInputs block) := by
  simp only [disconnectBlock, undoInputs, connectedInputs, List.foldr_flatMap, List.foldr_map]

theorem connectedInputs_pegins (block : ChildBlock) :
    ((connectedInputs block).map (·.2)).filter (·.input.isPegin) =
      block.vtx.tail.flatMap (·.pegins) := by
  have hinputs : (connectedInputs block).map (·.2) = block.vtx.tail.flatMap (·.inputs) := by
    conv_rhs => rw [← List.zipIdx_map_fst 1 block.vtx.tail, List.flatMap_map]
    simp [connectedInputs, List.map_flatMap, Function.comp_def]
  rw [hinputs, List.filter_flatMap]
  rfl

theorem undoInputs_spec (acc : Bool × Finset PeginKey) (ps : List (ℕ × Child.InputAt)) :
    Unmarked C acc ((ps.map (·.2)).filter (·.input.isPegin))
      (undoInputs C H parent acc ps) := by
  induction ps with
  | nil => exact .refl
  | cons p ps ih =>
    rw [List.map_cons, ← List.singleton_append, List.filter_append]
    exact ih.append (applyTxInUndo_spec C H _ _ p.2)

theorem undoInputs_clean {ps : List (ℕ × Child.InputAt)}
    (hnodup : (((ps.map (·.2)).filter (·.input.isPegin)).map (·.key C)).Nodup)
    (hmarked : ∀ x ∈ (ps.map (·.2)).filter (·.input.isPegin),
      isDrivechainDepositPeginWitness C x.stack x.input.prevout = true ∧ x.key C ∈ peginSpent) :
    (undoInputs C H parent (true, peginSpent) ps).1 = true := by
  induction ps with
  | nil => rfl
  | cons p ps ih =>
    rw [List.map_cons, List.filter_cons] at hnodup hmarked
    by_cases hpegin : p.2.input.isPegin = true
    · rw [if_pos hpegin] at hnodup hmarked
      rw [List.map_cons, List.nodup_cons] at hnodup
      have hclean := ih hnodup.2 fun x hx => hmarked x (List.mem_cons_of_mem _ hx)
      obtain ⟨hdeposit, hkey⟩ := hmarked p.2 List.mem_cons_self
      -- the inputs behind it have other keys, so its own mark is still there
      have hthere : p.2.key C ∈ (undoInputs C H parent (true, peginSpent) ps).2 := by
        rw [(undoInputs_spec C H parent _ ps).eq hclean]
        exact Finset.mem_sdiff.2 ⟨hkey, fun hmem => hnodup.1 (List.mem_toFinset.1 hmem)⟩
      change (applyTxInUndo C H _ (undoInputs C H parent (true, peginSpent) ps) p.2).1 = true
      rw [applyTxInUndo, if_pos hpegin, if_pos (.inl hdeposit), if_pos hthere]
      exact hclean
    · rw [if_neg hpegin] at hnodup hmarked
      change (applyTxInUndo C H _ (undoInputs C H parent (true, peginSpent) ps) p.2).1 = true
      rw [applyTxInUndo, if_neg hpegin]
      exact ih hnodup hmarked

/-- **A cleanly disconnected block takes its own marks away.** -/
theorem disconnectBlock_spec (block : ChildBlock) (peginSpent : Finset PeginKey) :
    Unmarked C (true, peginSpent) (block.vtx.tail.flatMap (·.pegins))
      (disconnectBlock C H parent block peginSpent) := by
  rw [disconnectBlock_eq, ← connectedInputs_pegins]
  exact undoInputs_spec ..

/-- **A block whose marks are there is cleanly disconnected**, whatever the parent chain
answers. -/
theorem disconnectBlock_clean {block : ChildBlock} {peginSpent : Finset PeginKey}
    (hnodup : ((block.vtx.tail.flatMap (·.pegins)).map (·.key C)).Nodup)
    (hmarked : ∀ x ∈ block.vtx.tail.flatMap (·.pegins),
      isDrivechainDepositPeginWitness C x.stack x.input.prevout = true ∧ x.key C ∈ peginSpent) :
    (disconnectBlock C H parent block peginSpent).1 = true := by
  rw [← connectedInputs_pegins] at hnodup hmarked
  rw [disconnectBlock_eq]
  exact undoInputs_clean C H parent hnodup hmarked

end Spec

end ElementsDrivechain
