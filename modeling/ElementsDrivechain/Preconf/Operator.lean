import ElementsDrivechain.Parent.Primitives
import ElementsDrivechain.Foundations.Fallible

/-!
# The bond of a preconfer

A preconfer promises to a user that a certain transaction will spend an output of the user, and
puts up *collateral* for it.  Whoever shows two promises for different transactions destroys the
collateral, which a contract on the output enforces; the preconfer may take it back later.  The
promise is a signature of a hash that is computed twice, by the tool that signs and checks promises
and by the contract.

* `receiptHash_eq_digest` : **the tool and the contract hash the same bytes.**
* `operator_bond_slashing` : **two promises destroy the collateral, and nothing else does.**
-/

namespace ElementsDrivechain.Preconf

open Fallible

/-! ### The tool -/

/-- A reference to an output. -/
@[ext] structure OutPoint where
  txid : Uint256
  vout : UInt32
deriving DecidableEq

/-- The outpoint that no transaction has. -/
def OutPoint.IsNull (o : OutPoint) : Prop := o.txid = 0 ∧ o.vout = 0xffffffff
deriving Decidable

/-- References are sorted by transaction id and then by output index. -/
def OutPoint.le (a b : OutPoint) : Bool :=
  (compareLex (compareOn fun o : OutPoint => o.txid.data) (compareOn fun o : OutPoint => o.vout)
    a b).isLE

/-- The bytes of a signature. -/
structure Signature where
  data : Bytes
  size_data : data.length = 64
deriving DecidableEq

/-- The parameters of a bond. -/
structure Config where
  genesis : Uint256
  feeAsset : Uint256
  /-- The key that signs promises. -/
  preconfer : Uint256
  /-- The output that promises are about. -/
  protectedOutput : OutPoint
  epoch : UInt64
  collateral : UInt64
  activeUntil : UInt32
  /-- From here on the collateral may be taken back. -/
  refundHeight : UInt32
deriving DecidableEq

/-- The parameters of the contract. -/
structure Arguments where
  DOMAIN : Uint256
  GENESIS : Uint256
  FEE_ASSET : Uint256
  PRECONFER : Uint256
  PROTECTED_TXID : Uint256
  PROTECTED_VOUT : UInt32
  EPOCH : UInt64
  COLLATERAL : UInt64
  ACTIVE_UNTIL : UInt32
  REFUND_HEIGHT : UInt32
deriving DecidableEq

/-- An asset or an amount, which may be hidden. -/
inductive Conf (α : Type) where
  | confidential (parity : Bool) (x : Uint256)
  | explicit (value : α)
deriving DecidableEq

/-- An input, with what it pegs in or issues. -/
structure TxIn where
  previousOutput : OutPoint
  sequence : UInt32
  pegin : Option Uint256 := none
  newIssuanceContract : Option Uint256 := none
  reissuanceEntropy : Option Uint256 := none
deriving DecidableEq

/-- An output. -/
structure TxOut where
  asset : Conf Uint256
  value : Conf UInt64
  scriptPubKey : CScript
deriving DecidableEq

/-- A transaction. -/
structure Transaction where
  version : UInt32
  lockTime : UInt32
  input : List TxIn
  output : List TxOut
deriving DecidableEq

/-- The output that is a fee. -/
def TxOut.newFee (amount : UInt64) (asset : Uint256) : TxOut where
  asset := .explicit asset
  value := .explicit amount
  scriptPubKey := []

/-- What the contract sees of a spend: the transaction, the outputs that it spends, and which of
its inputs the contract is run for. -/
structure ElementsEnv where
  tx : Transaction
  utxos : List TxOut
  ix : Fin tx.input.length
  genesis : Uint256
  /-- There is one description for each input. -/
  length_utxos : utxos.length = tx.input.length

/-- Hashes, signatures and scripts, as far as the two sides see them. -/
structure PreconfCrypto where
  sha256 : Bytes → Uint256
  /-- A public key signed a message. -/
  verifySchnorr : Uint256 → Uint256 → Signature → Bool
  /-- The script of the output that is under the contract with these parameters. -/
  bondScript : Arguments → Except String CScript
  /-- The hash of all that a spend consists of. -/
  sigAllHash : ElementsEnv → Uint256

/-- The bytes of `ECX/PreconfOperatorBond/Promise/v1`. -/
def DOMAIN : Bytes :=
  "ECX/PreconfOperatorBond/Promise/v1".toList.map fun c => UInt8.ofNat c.toNat

/-- The largest collateral. -/
def MAX_COLLATERAL : UInt64 := 2100000000000000
/-- From here on lock times are not heights. -/
def LOCKTIME_THRESHOLD : UInt32 := 500000000

/-- A bond that was compiled. -/
structure Bond where
  config : Config
  script : CScript
deriving DecidableEq

/-- A promise: the preconfer signed that a transaction will spend the protected output. -/
structure Receipt where
  bond : OutPoint
  txid : Uint256
  signature : Signature
deriving DecidableEq

/-- The witness of a spend: two promises, or a signature for a refund. -/
inductive Action where
  | left (first second : Uint256 × Signature)
  | right (signature : Signature)
deriving DecidableEq

section Tool

variable (K : PreconfCrypto)

/-- The arguments of the program for a bond. -/
def Config.arguments (c : Config) : Arguments where
  DOMAIN := K.sha256 Preconf.DOMAIN
  GENESIS := c.genesis
  FEE_ASSET := c.feeAsset
  PRECONFER := c.preconfer
  PROTECTED_TXID := c.protectedOutput.txid
  PROTECTED_VOUT := c.protectedOutput.vout
  EPOCH := c.epoch
  COLLATERAL := c.collateral
  ACTIVE_UNTIL := c.activeUntil
  REFUND_HEIGHT := c.refundHeight

/-- Checks the parameters of a bond and compiles it. -/
def Config.compile (c : Config) : Except String Bond := do
  rejectIf (c.protectedOutput.IsNull ∨ c.collateral = 0 ∨ MAX_COLLATERAL < c.collateral ∨
      c.activeUntil = 0 ∨ c.refundHeight ≤ c.activeUntil ∨ LOCKTIME_THRESHOLD ≤ c.refundHeight)
    "invalid operator bond parameters"
  let script ← K.bondScript (c.arguments K)
  return { config := c, script := script }

/-- The output that holds the collateral. -/
def Bond.fundingOutput (b : Bond) : TxOut where
  asset := .explicit b.config.feeAsset
  value := .explicit b.config.collateral
  scriptPubKey := b.script

/-- The pieces that are hashed for a promise. -/
def Bond.digestPieces (b : Bond) (collateral : OutPoint) (spend : Uint256) : List Bytes :=
  let c := b.config
  [(K.sha256 DOMAIN).data, c.genesis.data, collateral.txid.data,
    writeBE 4 collateral.vout.toNat, (K.sha256 b.script).data, c.protectedOutput.txid.data,
    writeBE 4 c.protectedOutput.vout.toNat, writeBE 8 c.epoch.toNat,
    writeBE 4 c.activeUntil.toNat, writeBE 4 c.refundHeight.toNat, spend.data]

/-- What a preconfer signs to promise a transaction. -/
def Bond.digest (b : Bond) (collateral : OutPoint) (spend : Uint256) : Uint256 :=
  K.sha256 (b.digestPieces K collateral spend).flatten

/-- Checks a promise. -/
def Bond.verify (b : Bond) (receipt : Receipt) : Except String Unit := do
  rejectIf (receipt.bond.IsNull ∨ receipt.bond = b.config.protectedOutput)
    "bond must be separate from principal"
  rejectIf (K.verifySchnorr b.config.preconfer (b.digest K receipt.bond receipt.txid)
    receipt.signature = false) "invalid preconfer promise"

/-- The transaction that burns the collateral as a fee. -/
def Bond.penaltyTransaction (b : Bond) (collateral : OutPoint) : Except String Transaction := do
  rejectIf (collateral.IsNull ∨ collateral = b.config.protectedOutput)
    "bond must be separate from principal"
  return {
    version := 2
    lockTime := 0
    input := [{ previousOutput := collateral, sequence := 0xfffffffe }]
    output := [.newFee b.config.collateral b.config.feeAsset] }

/-- What a spend looks like to the contract, which is run for its first input. -/
def bondEnvironment (tx : Transaction) (utxos : List TxOut) (genesis : Uint256) :
    Except String ElementsEnv :=
  if h : tx.input = [] ∨ utxos.length ≠ tx.input.length then
    .error "one authenticated UTXO description per input is required"
  else .ok {
    tx := tx
    utxos := utxos
    ix := ⟨0, List.length_pos_of_ne_nil (not_or.1 h).1⟩
    genesis := genesis
    length_utxos := not_not.1 (not_or.1 h).2 }

/-- What a promise gives to the program. -/
def Receipt.witness (r : Receipt) : Uint256 × Signature := (r.txid, r.signature)

/-- The action of the program for two promises. -/
def penaltyAction (first second : Receipt) : Except String Action := do
  rejectIf (first.bond ≠ second.bond ∨ first.txid = second.txid)
    "not same-bond conflicting promises"
  return .left first.witness second.witness

end Tool

/-! ### The contract -/

namespace ElementsEnv

variable (env : ElementsEnv)

/-- The input that is checked. -/
def currentInput : TxIn := env.tx.input.get env.ix

/-- The output that it spends. -/
def currentUtxo : TxOut := env.utxos.get (env.ix.cast env.length_utxos.symm)

/-- No input waits for anything, so that the lock time does not count. -/
def IsFinal : Prop := ∀ input ∈ env.tx.input, input.sequence = 0xffffffff
deriving Decidable

/-- The height before which the transaction is not valid. -/
def txLockHeight : UInt32 :=
  if env.IsFinal ∨ LOCKTIME_THRESHOLD ≤ env.tx.lockTime then 0 else env.tx.lockTime

end ElementsEnv

/-- An output that is the fee of the transaction. -/
def TxOut.IsFee (output : TxOut) : Prop :=
  output.scriptPubKey = [] ∧ (∃ asset, output.asset = .explicit asset) ∧
    ∃ value, output.value = .explicit value

/-- The contract stops unless a condition holds. -/
def assert (c : Prop) [Decidable c] : Option Unit := if c then some () else none

@[simp] theorem assert_eq_some {c : Prop} [Decidable c] {u : Unit} : assert c = some u ↔ c := by
  unfold assert
  split_ifs with h <;> simp [h]

/-- The value that is not hidden. -/
def Conf.unwrapRight {α : Type} : Conf α → Option α
  | .explicit value => some value
  | .confidential _ _ => none

@[simp] theorem Conf.unwrapRight_eq_some {α : Type} {c : Conf α} {value : α} :
    c.unwrapRight = some value ↔ c = .explicit value := by
  cases c <;> simp [unwrapRight]

instance (output : TxOut) : Decidable output.IsFee :=
  decidable_of_iff (output.scriptPubKey = [] ∧ output.asset.unwrapRight.isSome ∧
    output.value.unwrapRight.isSome) (by
      simp [TxOut.IsFee, Option.isSome_iff_exists])

section Contract

variable (K : PreconfCrypto) (p : Arguments) (env : ElementsEnv)

/-- The hash of a promise, one piece after the other. -/
def receiptHash (spendTxid : Uint256) : Uint256 :=
  let outpoint := env.currentInput.previousOutput
  let ctx : Bytes := []
  let ctx := ctx ++ p.DOMAIN.data
  let ctx := ctx ++ p.GENESIS.data
  let ctx := ctx ++ outpoint.txid.data
  let ctx := ctx ++ writeBE 4 outpoint.vout.toNat
  let ctx := ctx ++ (K.sha256 env.currentUtxo.scriptPubKey).data
  let ctx := ctx ++ p.PROTECTED_TXID.data
  let ctx := ctx ++ writeBE 4 p.PROTECTED_VOUT.toNat
  let ctx := ctx ++ writeBE 8 p.EPOCH.toNat
  let ctx := ctx ++ writeBE 4 p.ACTIVE_UNTIL.toNat
  let ctx := ctx ++ writeBE 4 p.REFUND_HEIGHT.toNat
  let ctx := ctx ++ spendTxid.data
  K.sha256 ctx

/-- The program checks a promise. -/
def verifyPromise (promise : Uint256 × Signature) : Option Unit :=
  assert (K.verifySchnorr p.PRECONFER (receiptHash K p env promise.1) promise.2 = true)

/-- The branch that burns the collateral. -/
def penalty (first second : Uint256 × Signature) : Option Unit := do
  assert (first.1 ≠ second.1)
  verifyPromise K p env first
  verifyPromise K p env second
  assert (env.tx.output.length = 1)
  let output ← env.tx.output[0]?
  assert output.IsFee
  let asset ← output.asset.unwrapRight
  assert (asset = p.FEE_ASSET)
  let amount ← output.value.unwrapRight
  assert (amount = p.COLLATERAL)

/-- The part of the contract that every spend has to meet. -/
def commonChecks : Option Unit := do
  assert (env.genesis = p.GENESIS)
  assert (env.tx.input.length = 1)
  assert (env.ix.val = 0)
  assert (¬(env.currentInput.previousOutput.txid = p.PROTECTED_TXID ∧
    env.currentInput.previousOutput.vout = p.PROTECTED_VOUT))
  assert (env.currentInput.pegin = none)
  assert (env.currentInput.newIssuanceContract = none)
  assert (env.currentInput.reissuanceEntropy = none)
  assert (0 < p.ACTIVE_UNTIL)
  assert (p.ACTIVE_UNTIL < p.REFUND_HEIGHT)
  assert (p.REFUND_HEIGHT < LOCKTIME_THRESHOLD)
  assert (0 < p.COLLATERAL)
  let asset ← env.currentUtxo.asset.unwrapRight
  assert (asset = p.FEE_ASSET)
  let amount ← env.currentUtxo.value.unwrapRight
  assert (amount = p.COLLATERAL)

/-- **The contract.** -/
def operatorBond (action : Action) : Option Unit := do
  commonChecks p env
  match action with
  | .left first second => penalty K p env first second
  | .right signature => do
    assert (p.REFUND_HEIGHT ≤ env.txLockHeight)
    assert (K.verifySchnorr p.PRECONFER (K.sigAllHash env) signature = true)

end Contract

section Promises

variable {K : PreconfCrypto} {c : Config} {b : Bond} {env : ElementsEnv}

theorem Config.compile_eq_ok (h : c.compile K = .ok b) :
    b.config = c ∧ 0 < c.collateral ∧ 0 < c.activeUntil ∧ c.activeUntil < c.refundHeight ∧
      c.refundHeight < LOCKTIME_THRESHOLD := by
  simp only [compile, bind_eq_ok, rejectIf_eq_ok, not_or, exists_const, pure_eq_ok] at h
  obtain ⟨⟨-, hcollateral, -, hactive, hrefund, hthreshold⟩, script, -, rfl⟩ := h
  refine ⟨rfl, ?_, ?_, UInt32.not_le.1 hrefund, UInt32.not_le.1 hthreshold⟩
  · exact UInt64.pos_iff_ne_zero.2 hcollateral
  · exact UInt32.pos_iff_ne_zero.2 hactive

/-- **The tool and the contract hash the same bytes.** -/
theorem receiptHash_eq_digest (hscript : env.currentUtxo.scriptPubKey = b.script)
    (txid : Uint256) : receiptHash K (b.config.arguments K) env txid =
      b.digest K env.currentInput.previousOutput txid := by
  simp [receiptHash, Bond.digest, Bond.digestPieces, Config.arguments, hscript]

theorem Bond.verify_eq_ok {r : Receipt} : b.verify K r = .ok () ↔
    ¬r.bond.IsNull ∧ r.bond ≠ b.config.protectedOutput ∧
      K.verifySchnorr b.config.preconfer (b.digest K r.bond r.txid) r.signature = true := by
  simp [Bond.verify, bind_eq_ok, rejectIf_eq_ok, not_or, and_assoc]

theorem Bond.digestPieces_inj {b₁ b₂ : Bond} {o₁ o₂ : OutPoint} {t₁ t₂ : Uint256}
    (h : (b₁.digestPieces K o₁ t₁).flatten = (b₂.digestPieces K o₂ t₂).flatten) :
    o₁ = o₂ ∧ t₁ = t₂ := by
  simp only [digestPieces, List.flatten_cons, List.flatten_nil, List.append_nil] at h
  obtain ⟨-, h⟩ := Uint256.append_inj h
  obtain ⟨-, h⟩ := Uint256.append_inj h
  obtain ⟨htxid, h⟩ := Uint256.append_inj h
  obtain ⟨hvout, h⟩ := writeBE_append_inj o₁.vout.toNat_lt o₂.vout.toNat_lt h
  obtain ⟨-, h⟩ := Uint256.append_inj h
  obtain ⟨-, h⟩ := Uint256.append_inj h
  obtain ⟨-, h⟩ := writeBE_append_inj (UInt32.toNat_lt _) (UInt32.toNat_lt _) h
  obtain ⟨-, h⟩ := writeBE_append_inj (UInt64.toNat_lt _) (UInt64.toNat_lt _) h
  obtain ⟨-, h⟩ := writeBE_append_inj (UInt32.toNat_lt _) (UInt32.toNat_lt _) h
  obtain ⟨-, h⟩ := writeBE_append_inj (UInt32.toNat_lt _) (UInt32.toNat_lt _) h
  refine ⟨?_, Uint256.data_injective h⟩
  cases o₁
  cases o₂
  simp_all [UInt32.toNat_inj]

/-! ### Spends -/

variable {p : Arguments} {first second : Uint256 × Signature}

/-- **What a penalty takes.** -/
theorem penalty_eq_some : penalty K p env first second = some () ↔
    first.1 ≠ second.1 ∧
      K.verifySchnorr p.PRECONFER (receiptHash K p env first.1) first.2 = true ∧
      K.verifySchnorr p.PRECONFER (receiptHash K p env second.1) second.2 = true ∧
      env.tx.output = [.newFee p.COLLATERAL p.FEE_ASSET] := by
  simp only [penalty, verifyPromise, Option.bind_eq_bind, Option.bind_eq_some_iff, assert_eq_some,
    Conf.unwrapRight_eq_some, exists_const]
  constructor
  · rintro ⟨hne, hfirst, hsecond, hlength, output, houtput, hfee, asset, hasset, rfl, amount,
      hamount, rfl⟩
    refine ⟨hne, hfirst, hsecond, ?_⟩
    obtain ⟨only, honly⟩ := List.length_eq_one_iff.1 hlength
    rw [honly] at houtput ⊢
    obtain rfl : only = output := by simpa using houtput
    cases only
    simp_all [TxOut.newFee, TxOut.IsFee]
  · rintro ⟨hne, hfirst, hsecond, houtput⟩
    rw [houtput]
    exact ⟨hne, hfirst, hsecond, rfl, _, rfl, ⟨rfl, ⟨_, rfl⟩, ⟨_, rfl⟩⟩, _, rfl, rfl, _, rfl, rfl⟩

/-- What every spend meets. -/
structure CommonChecks (p : Arguments) (env : ElementsEnv) : Prop where
  genesis : env.genesis = p.GENESIS
  oneInput : env.tx.input.length = 1
  separate : ¬(env.currentInput.previousOutput.txid = p.PROTECTED_TXID ∧
    env.currentInput.previousOutput.vout = p.PROTECTED_VOUT)
  pegin : env.currentInput.pegin = none
  newIssuance : env.currentInput.newIssuanceContract = none
  reissuance : env.currentInput.reissuanceEntropy = none
  active_pos : 0 < p.ACTIVE_UNTIL
  active_lt : p.ACTIVE_UNTIL < p.REFUND_HEIGHT
  refund_lt : p.REFUND_HEIGHT < LOCKTIME_THRESHOLD
  collateral_pos : 0 < p.COLLATERAL
  asset : env.currentUtxo.asset = .explicit p.FEE_ASSET
  amount : env.currentUtxo.value = .explicit p.COLLATERAL

theorem commonChecks_eq_some {u : Unit} :
    commonChecks p env = some u ↔ CommonChecks p env := by
  simp only [commonChecks, Option.bind_eq_bind, Option.bind_eq_some_iff, assert_eq_some,
    Conf.unwrapRight_eq_some, exists_const]
  constructor
  · rintro ⟨h₁, h₂, -, h₃, h₄, h₅, h₆, h₇, h₈, h₉, h₁₀, _, h₁₁, rfl, _, h₁₂, rfl⟩
    exact ⟨h₁, h₂, h₃, h₄, h₅, h₆, h₇, h₈, h₉, h₁₀, h₁₁, h₁₂⟩
  · intro h
    have hix : env.ix.val = 0 := by
      have hlt := env.ix.isLt
      have hone := h.oneInput
      omega
    exact ⟨h.genesis, h.oneInput, hix, h.separate, h.pegin, h.newIssuance, h.reissuance,
      h.active_pos, h.active_lt, h.refund_lt, h.collateral_pos, _, h.asset, rfl, _, h.amount, rfl⟩

theorem operatorBond_left : operatorBond K p env (.left first second) = some () ↔
    CommonChecks p env ∧ penalty K p env first second = some () := by
  simp only [operatorBond, Option.bind_eq_bind, Option.bind_eq_some_iff, exists_const,
    commonChecks_eq_some]

theorem operatorBond_right {signature : Signature} :
    operatorBond K p env (.right signature) = some () ↔ CommonChecks p env ∧
      p.REFUND_HEIGHT ≤ env.txLockHeight ∧
        K.verifySchnorr p.PRECONFER (K.sigAllHash env) signature = true := by
  simp only [operatorBond, Option.bind_eq_bind, Option.bind_eq_some_iff, exists_const,
    commonChecks_eq_some, assert_eq_some]

/-- A spend that destroys the collateral, for two promises of the preconfer. -/
structure Penalised (K : PreconfCrypto) (b : Bond) (env : ElementsEnv)
    (first second : Uint256 × Signature) : Prop where
  oneInput : env.tx.input.length = 1
  /-- All collateral is paid as a fee. -/
  output : env.tx.output = [.newFee b.config.collateral b.config.feeAsset]
  distinct : first.1 ≠ second.1
  /-- Both promises were signed. -/
  promises : ∀ promise ∈ [first, second], K.verifySchnorr b.config.preconfer
    (b.digest K env.currentInput.previousOutput promise.1) promise.2 = true

/-- A spend that the preconfer signed, after the height of the refund. -/
structure Refunded (K : PreconfCrypto) (b : Bond) (env : ElementsEnv) (signature : Signature) :
    Prop where
  height : b.config.refundHeight ≤ env.txLockHeight
  signed : K.verifySchnorr b.config.preconfer (K.sigAllHash env) signature = true

/-- **Two promises destroy the collateral.** -/
theorem penalty_of_verify (hc : c.compile K = .ok b) {r₁ r₂ : Receipt}
    (h₁ : b.verify K r₁ = .ok ()) (h₂ : b.verify K r₂ = .ok ()) (hbond : r₁.bond = r₂.bond)
    (htxid : r₁.txid ≠ r₂.txid) :
    ∃ tx action env, b.penaltyTransaction r₁.bond = .ok tx ∧
      penaltyAction r₁ r₂ = .ok action ∧
      bondEnvironment tx [b.fundingOutput] c.genesis = .ok env ∧
      operatorBond K (c.arguments K) env action = some () := by
  obtain ⟨rfl, hcollateral, hactive, hlt, hthreshold⟩ := Config.compile_eq_ok hc
  obtain ⟨hnull, hseparate, hsigned₁⟩ := Bond.verify_eq_ok.1 h₁
  obtain ⟨-, -, hsigned₂⟩ := Bond.verify_eq_ok.1 h₂
  rw [← hbond] at hsigned₂
  let tx : Transaction := {
    version := 2
    lockTime := 0
    input := [{ previousOutput := r₁.bond, sequence := 0xfffffffe }]
    output := [.newFee b.config.collateral b.config.feeAsset] }
  let env : ElementsEnv := {
    tx := tx
    utxos := [b.fundingOutput]
    ix := ⟨0, Nat.zero_lt_one⟩
    genesis := b.config.genesis
    length_utxos := rfl }
  have hcommon : CommonChecks (b.config.arguments K) env := {
    genesis := rfl
    oneInput := rfl
    separate := fun ⟨htx, hvout⟩ => hseparate (OutPoint.ext htx hvout)
    pegin := rfl
    newIssuance := rfl
    reissuance := rfl
    active_pos := hactive
    active_lt := hlt
    refund_lt := hthreshold
    collateral_pos := hcollateral
    asset := rfl
    amount := rfl }
  refine ⟨tx, .left r₁.witness r₂.witness, env, ?_, ?_, rfl, operatorBond_left.2 ⟨hcommon, ?_⟩⟩
  · rw [Bond.penaltyTransaction, rejectIf_of_not (not_or.2 ⟨hnull, hseparate⟩)]
    rfl
  · rw [penaltyAction, rejectIf_of_not (not_or.2 ⟨not_not.2 hbond, htxid⟩)]
    rfl
  · have hhash := receiptHash_eq_digest (K := K) (show env.currentUtxo.scriptPubKey = b.script
      from rfl)
    refine penalty_eq_some.2 ⟨htxid, ?_, ?_, rfl⟩
    · rw [hhash]
      exact hsigned₁
    · rw [hhash]
      exact hsigned₂

/-- **Nothing else destroys the collateral.** -/
theorem accepted_spend (hc : c.compile K = .ok b)
    (hscript : env.currentUtxo.scriptPubKey = b.script) {action : Action}
    (h : operatorBond K (c.arguments K) env action = some ()) :
    (∃ first second, action = .left first second ∧ Penalised K b env first second) ∨
      ∃ signature, action = .right signature ∧ Refunded K b env signature := by
  obtain ⟨rfl, -⟩ := Config.compile_eq_ok hc
  cases action with
  | left first second =>
    obtain ⟨hcommon, hpenalty⟩ := operatorBond_left.1 h
    obtain ⟨hne, hfirst, hsecond, houtput⟩ := penalty_eq_some.1 hpenalty
    rw [receiptHash_eq_digest hscript] at hfirst hsecond
    refine .inl ⟨first, second, rfl, hcommon.oneInput, houtput, hne, ?_⟩
    simpa using ⟨hfirst, hsecond⟩
  | right signature =>
    obtain ⟨-, hheight, hsigned⟩ := operatorBond_right.1 h
    exact .inr ⟨signature, rfl, hheight, hsigned⟩

/-- A promise that was signed: for a bond, an output under it, and a transaction. -/
structure Promise where
  bond : Bond
  outpoint : OutPoint
  txid : Uint256

/-- What is hashed for a promise. -/
def Promise.preimage (K : PreconfCrypto) (q : Promise) : Bytes :=
  (q.bond.digestPieces K q.outpoint q.txid).flatten

/-- All that the key of a preconfer signed are some promises, at most one for each output, and
refunds. -/
structure SignsOnce (K : PreconfCrypto) (preconfer : Uint256) (promises : Set Promise)
    (refunds : Set Uint256) : Prop where
  /-- Only what was signed verifies. -/
  unforgeable : ∀ message signature, K.verifySchnorr preconfer message signature = true →
    message ∈ refunds ∨ ∃ q ∈ promises, message = K.sha256 (q.preimage K)
  /-- No two promises are in conflict. -/
  once : ∀ q ∈ promises, ∀ q' ∈ promises, q.outpoint = q'.outpoint → q.txid = q'.txid

/-- The hash tells a promise that is shown for an output from all that was signed.  Only the
promises that are shown are meant: there are as many transaction ids as hashes. -/
structure NoCollision (K : PreconfCrypto) (b : Bond) (o : OutPoint) (promises : Set Promise)
    (refunds : Set Uint256) (txid : Uint256) : Prop where
  refund : b.digest K o txid ∉ refunds
  promise : ∀ q ∈ promises, K.sha256 (q.preimage K) = b.digest K o txid →
    q.preimage K = (b.digestPieces K o txid).flatten

/-- **A preconfer that signs once for each bond is not penalised.** -/
theorem not_penalised {promises : Set Promise} {refunds : Set Uint256}
    (hsigns : SignsOnce K b.config.preconfer promises refunds)
    (hhash : ∀ promise ∈ [first, second],
      NoCollision K b env.currentInput.previousOutput promises refunds promise.1) :
    ¬Penalised K b env first second := by
  intro h
  have hsigned : ∀ promise ∈ [first, second], ∃ q ∈ promises,
      q.outpoint = env.currentInput.previousOutput ∧ q.txid = promise.1 := by
    intro promise hmem
    obtain hrefund | ⟨q, hq, heq⟩ := hsigns.unforgeable _ _ (h.promises promise hmem)
    · exact absurd hrefund (hhash promise hmem).refund
    · exact ⟨q, hq, Bond.digestPieces_inj ((hhash promise hmem).promise q hq heq.symm)⟩
  obtain ⟨q₁, hq₁, ho₁, ht₁⟩ := hsigned first (by simp)
  obtain ⟨q₂, hq₂, ho₂, ht₂⟩ := hsigned second (by simp)
  exact h.distinct (ht₁.symm.trans ((hsigns.once q₁ hq₁ q₂ hq₂ (ho₁.trans ho₂.symm)).trans ht₂))

end Promises

/-- **Two promises destroy the collateral, and nothing else does.**  For a configuration that is
accepted, the tool and the contract hash the same bytes; two promises for one bond that the tool
accepts make the contract accept the penalty; a spend that the contract accepts is a penalty or a
refund; and a preconfer that signed at most one promise for each output is not penalised. -/
theorem operator_bond_slashing (K : PreconfCrypto) (c : Config) (b : Bond)
    (hc : c.compile K = .ok b) :
    (∀ (env : ElementsEnv) (txid : Uint256), env.currentUtxo.scriptPubKey = b.script →
      receiptHash K (c.arguments K) env txid = b.digest K env.currentInput.previousOutput txid) ∧
    (∀ r₁ r₂ : Receipt, b.verify K r₁ = .ok () → b.verify K r₂ = .ok () → r₁.bond = r₂.bond →
      r₁.txid ≠ r₂.txid →
      ∃ tx action env, b.penaltyTransaction r₁.bond = .ok tx ∧ penaltyAction r₁ r₂ = .ok action ∧
        bondEnvironment tx [b.fundingOutput] c.genesis = .ok env ∧
        operatorBond K (c.arguments K) env action = some ()) ∧
    (∀ (env : ElementsEnv) (action : Action), env.currentUtxo.scriptPubKey = b.script →
      operatorBond K (c.arguments K) env action = some () →
      (∃ first second, action = .left first second ∧ Penalised K b env first second) ∨
        ∃ signature, action = .right signature ∧ Refunded K b env signature) ∧
    ∀ (promises : Set Promise) (refunds : Set Uint256),
      SignsOnce K c.preconfer promises refunds →
      ∀ (env : ElementsEnv) (first second : Uint256 × Signature),
        env.currentUtxo.scriptPubKey = b.script →
        (∀ promise ∈ [first, second],
          NoCollision K b env.currentInput.previousOutput promises refunds promise.1) →
        operatorBond K (c.arguments K) env (.left first second) ≠ some () := by
  obtain ⟨hconfig, -⟩ := Config.compile_eq_ok hc
  refine ⟨?_, fun r₁ r₂ => penalty_of_verify hc,
    fun env action hscript haccepted => accepted_spend hc hscript haccepted, ?_⟩
  · intro env txid hscript
    rw [← hconfig]
    exact receiptHash_eq_digest hscript txid
  · intro promises refunds hsigns env first second hscript hhash haccepted
    rw [← hconfig] at hsigns
    obtain ⟨first', second', heq, hpenalised⟩ | ⟨signature, heq, -⟩ :=
      accepted_spend hc hscript haccepted
    · obtain ⟨rfl, rfl⟩ := Action.left.inj heq
      exact not_penalised hsigns hhash hpenalised
    · cases heq

/-! ### Two preconfers -/

namespace Sample

/-- Hashes and signatures that are good enough to tell a few promises apart.  A signature spells
the key and the message, and only what was signed verifies. -/
def preconfCrypto (signed : Uint256 → Bool) : PreconfCrypto where
  sha256 := Sample.polynomialHash
  verifySchnorr key message signature := signature.data = key.data ++ message.data && signed message
  bondScript arguments := .ok (0x51 :: 0x20 :: arguments.PROTECTED_TXID.data)
  sigAllHash _ := .ofByte 99

/-- The sample bond. -/
def bondConfig : Config where
  genesis := .ofByte 1
  feeAsset := .ofByte 2
  preconfer := .ofByte 3
  protectedOutput := ⟨.ofByte 4, 0⟩
  epoch := 7
  collateral := 5000
  activeUntil := 100
  refundHeight := 200

/-- The sample bond, compiled. -/
def operatorBondOf (signed : Uint256 → Bool) : Bond where
  config := bondConfig
  script := 0x51 :: 0x20 :: ((bondConfig.arguments (preconfCrypto signed)).PROTECTED_TXID).data

/-- The output that holds the collateral. -/
def bondOutpoint : OutPoint := ⟨.ofByte 5, 1⟩

/-- The promise for a transaction. -/
def receiptOf (signed : Uint256 → Bool) (txid : Uint256) : Receipt where
  bond := bondOutpoint
  txid := txid
  signature := ⟨bondConfig.preconfer.data ++
    ((operatorBondOf signed).digest (preconfCrypto signed) bondOutpoint txid).data, by
      simp [Uint256.size_data]⟩

/-- The only message of a preconfer that signs once. -/
def signedOnce (message : Uint256) : Bool :=
  message = (operatorBondOf fun _ => true).digest (preconfCrypto fun _ => true) bondOutpoint
    (.ofByte 10)

/-- The transaction that burns it. -/
def penaltyEnv : ElementsEnv where
  tx := {
    version := 2
    lockTime := 0
    input := [{ previousOutput := bondOutpoint, sequence := 0xfffffffe }]
    output := [.newFee 5000 (.ofByte 2)] }
  utxos := [(operatorBondOf signedOnce).fundingOutput]
  ix := 0
  genesis := .ofByte 1
  length_utxos := rfl

end Sample

open Preconf.Sample in
/-- A preconfer that signed two promises loses the collateral, and one that signed one of them does
not, whatever second promise is shown. -/
theorem operator_bond_slashing_sample :
    (∃ env, operatorBond (preconfCrypto fun _ => true)
        (bondConfig.arguments (preconfCrypto fun _ => true)) env
        (.left (receiptOf (fun _ => true) (.ofByte 10)).witness
          (receiptOf (fun _ => true) (.ofByte 11)).witness) = some ()) ∧
      operatorBond (preconfCrypto signedOnce) (bondConfig.arguments (preconfCrypto signedOnce))
        penaltyEnv (.left (receiptOf signedOnce (.ofByte 10)).witness
          (receiptOf signedOnce (.ofByte 11)).witness) ≠ some () := by
  constructor
  · obtain ⟨-, hpenalty, -⟩ := operator_bond_slashing (preconfCrypto fun _ => true) bondConfig
      (operatorBondOf fun _ => true) (by decide +kernel)
    obtain ⟨tx, action, env, -, haction, -, haccepted⟩ := hpenalty
      (receiptOf (fun _ => true) (.ofByte 10)) (receiptOf (fun _ => true) (.ofByte 11))
      (by decide +kernel) (by decide +kernel) rfl (by decide)
    obtain rfl : Action.left (receiptOf (fun _ => true) (.ofByte 10)).witness
        (receiptOf (fun _ => true) (.ofByte 11)).witness = action :=
      Except.ok.inj ((by rfl : penaltyAction _ _ = _).symm.trans haction)
    exact ⟨env, haccepted⟩
  · obtain ⟨-, -, -, hhonest⟩ := operator_bond_slashing (preconfCrypto signedOnce) bondConfig
      (operatorBondOf signedOnce) (by decide +kernel)
    refine hhonest {⟨operatorBondOf signedOnce, bondOutpoint, .ofByte 10⟩} ∅ ⟨?_, ?_⟩ penaltyEnv _ _
      rfl ?_
    · intro message signature h
      exact .inr ⟨_, rfl, of_decide_eq_true (Bool.and_eq_true_iff.1 h).2⟩
    · rintro _ rfl _ rfl -
      rfl
    · intro promise hmem
      refine ⟨Set.notMem_empty _, ?_⟩
      rintro _ rfl heq
      simp only [List.mem_cons, List.not_mem_nil, or_false] at hmem
      obtain rfl | rfl := hmem
      · rfl
      · exact absurd heq (by decide +kernel)

end ElementsDrivechain.Preconf
