import ElementsDrivechain.Parent.Primitives

/-!
# Transactions of the sidechain

Transactions as the sidechain reads them: amounts and assets are explicit or committed to, an input
may be a *peg-in* that spends an output of the parent chain, and the proof of a peg-in stands in a
witness of its own.
-/

namespace ElementsDrivechain

/-- A field that is absent, explicit or a commitment. -/
inductive Confidential (α : Type)
  | null
  | explicit (value : α)
  | commitment (point : Bytes)
deriving DecidableEq, Repr

namespace Confidential

variable {α : Type}

/-- The field is absent. -/
def IsNull : Confidential α → Prop
  | null => True
  | _ => False

/-- The field is explicit. -/
def IsExplicit : Confidential α → Prop
  | explicit _ => True
  | _ => False

/-- The field is a commitment. -/
def IsCommitment : Confidential α → Prop
  | commitment _ => True
  | _ => False

instance : DecidablePred (IsNull (α := α))
  | null => inferInstanceAs (Decidable True)
  | explicit _ => inferInstanceAs (Decidable False)
  | commitment _ => inferInstanceAs (Decidable False)

instance : DecidablePred (IsExplicit (α := α))
  | null => inferInstanceAs (Decidable False)
  | explicit _ => inferInstanceAs (Decidable True)
  | commitment _ => inferInstanceAs (Decidable False)

instance : DecidablePred (IsCommitment (α := α))
  | null => inferInstanceAs (Decidable False)
  | explicit _ => inferInstanceAs (Decidable False)
  | commitment _ => inferInstanceAs (Decidable True)

end Confidential

namespace Child

/-- The bits of an output index that are left beside the flags of an input. -/
def OUTPOINT_INDEX_MASK : ℕ := 0x3fffffff

/-- The issuance of an asset by an input. -/
structure CAssetIssuance where
  nAmount : Confidential ℤ := .null
  nInflationKeys : Confidential ℤ := .null
deriving DecidableEq

/-- Nothing is issued. -/
def CAssetIssuance.IsNull (issuance : CAssetIssuance) : Prop :=
  issuance.nAmount.IsNull ∧ issuance.nInflationKeys.IsNull
deriving Decidable

/-- An input. -/
structure CTxIn where
  prevout : COutPoint
  scriptSig : CScript := []
  assetIssuance : CAssetIssuance := {}
  /-- The input spends an output of the parent chain. -/
  isPegin : Bool := false
  /-- The flag of a peg-in is stored in the index, above the bits that are left of it. -/
  index_le : isPegin = true → prevout.n ≤ OUTPOINT_INDEX_MASK

/-- An input that does not spend an output of the parent chain. -/
def CTxIn.ofPrevout (prevout : COutPoint) : CTxIn where
  prevout := prevout
  index_le := by simp

/-- The items of a witness. -/
abbrev CScriptWitness := List Bytes

/-- An output. -/
structure CTxOut where
  nAsset : Confidential Uint256
  nValue : Confidential ℤ
  nNonce : Confidential Bytes := .null
  scriptPubKey : CScript
deriving DecidableEq

/-- The amount of an output, when it is explicit. -/
def CTxOut.explicitValue (output : CTxOut) : Option ℤ :=
  match output.nValue with
  | .explicit value => some value
  | _ => none

/-- The proofs beside a confidential output. -/
structure CTxOutWitness where
  vchSurjectionproof : Bytes := []
  vchRangeproof : Bytes := []
deriving DecidableEq

/-- There are no proofs. -/
def CTxOutWitness.IsNull (witness : CTxOutWitness) : Prop :=
  witness.vchSurjectionproof = [] ∧ witness.vchRangeproof = []
deriving Decidable

/-- A transaction. -/
structure CTransaction where
  vin : List CTxIn
  /-- The peg-in witnesses; there may be none at all. -/
  peginWitness : List CScriptWitness := []
  /-- The script witnesses of the inputs; there may be none at all. -/
  scriptWitness : List CScriptWitness := []
  vout : List CTxOut
  /-- The proofs of the outputs; those at the end may be left out. -/
  outWitness : List CTxOutWitness := []
  /-- The id, which is computed when the transaction is made. -/
  hash : Uint256 := 0
  /-- No serialised transaction has more outputs than an index can tell apart. -/
  vout_length_lt : vout.length < 2 ^ 32 := by decide

/-- A coinbase without outputs. -/
def CTransaction.emptyCoinbase (hash : Uint256) : CTransaction where
  vin := [.ofPrevout ⟨0, COutPoint.NULL_INDEX⟩]
  vout := []
  hash := hash

/-- An input with its position and its peg-in witness. -/
structure InputAt where
  input : CTxIn
  index : ℕ
  stack : CScriptWitness

namespace CTransaction

/-- The transaction has a null input and no other. -/
def IsCoinBase (tx : CTransaction) : Prop :=
  tx.vin.length = 1 ∧ ∀ input ∈ tx.vin, input.prevout.IsNull
deriving Decidable

/-- The inputs with their positions and peg-in witnesses; a missing witness is empty. -/
def inputs (tx : CTransaction) : List InputAt :=
  tx.vin.mapIdx fun i input => { input := input, index := i, stack := tx.peginWitness.getD i [] }

theorem of_mem_inputs {tx : CTransaction} {x : InputAt} (h : x ∈ tx.inputs) :
    tx.inputs[x.index]? = some x ∧ x.input ∈ tx.vin := by
  obtain ⟨i, hi⟩ := List.mem_iff_getElem?.1 h
  obtain ⟨input, hinput, rfl⟩ : ∃ input, tx.vin[i]? = some input ∧
      { input := input, index := i, stack := tx.peginWitness.getD i [] } = x := by
    simpa [inputs] using hi
  exact ⟨hi, List.mem_of_getElem? hinput⟩

/-- The peg-in inputs. -/
def pegins (tx : CTransaction) : List InputAt := tx.inputs.filter (·.input.isPegin)

theorem mem_pegins {tx : CTransaction} {x : InputAt} :
    x ∈ tx.pegins ↔ x ∈ tx.inputs ∧ x.input.isPegin = true :=
  List.mem_filter

theorem IsCoinBase.not_pegin {tx : CTransaction} (h : tx.IsCoinBase) {input : CTxIn}
    (hinput : input ∈ tx.vin) : input.isPegin = false := by
  have hnull := (h.2 input hinput).2
  by_contra hpegin
  have := input.index_le (by simpa using hpegin)
  rw [hnull] at this
  exact absurd this (by decide)

theorem IsCoinBase.pegins_eq_nil {tx : CTransaction} (h : tx.IsCoinBase) : tx.pegins = [] :=
  List.filter_eq_nil_iff.2 fun x hx => by simp [h.not_pegin (of_mem_inputs hx).2]

end CTransaction

end Child

end ElementsDrivechain
