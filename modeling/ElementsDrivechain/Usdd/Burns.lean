import ElementsDrivechain.Child.Block
import ElementsDrivechain.Usdd.Claim

/-!
# The burns of a chain

Each block of the sidechain is scanned for outputs that burn an asset for a payment on the foreign
chain.  Each such burn becomes a claim with the next free number, and the leaf of the claim is
appended to the accumulator of the block before it.

* `extractEthereumWithdrawals_spec` : a block gives one claim for each of its burns, in order.
* `applyChain_eq_ok` : **the accumulator of a chain is that of all its burns.**
-/

namespace ElementsDrivechain.Usdd

open Fallible

/-- The letters `USDD`. -/
def WITHDRAWAL_MAGIC : Bytes := [0x55, 0x53, 0x44, 0x44]
/-- What the script of a burn pushes. -/
def WITHDRAWAL_SCRIPT_PUSH_SIZE : UInt8 := 65
/-- The size of the script of a burn. -/
def WITHDRAWAL_SCRIPT_SIZE : ℕ := 2 + WITHDRAWAL_SCRIPT_PUSH_SIZE.toNat
/-- So many units are one micro-dollar. -/
def USDD_UNITS_PER_USDT_MICRO : ℕ := 100
/-- No more can be withdrawn at once. -/
def MAX_WITHDRAWAL_USDT_MICRO : ℕ := 20000000 * 1000000

/-- The address with the given bytes; every caller passes exactly twenty. -/
def EthereumAddress.ofBytes (b : Bytes) : EthereumAddress :=
  if h : b.length = 20 then ⟨b, h⟩ else ⟨List.replicate 20 0, List.length_replicate⟩

/-! ### Outputs -/

/-- The script says that the output is a burn. -/
def IsWithdrawalScript (script : CScript) : Prop :=
  script.length = WITHDRAWAL_SCRIPT_SIZE ∧ script[0]? = some OP_RETURN ∧
    script[1]? = some WITHDRAWAL_SCRIPT_PUSH_SIZE ∧ (script.drop 2).take 4 = WITHDRAWAL_MAGIC ∧
    script[6]? = some (UInt8.ofNat WITHDRAWAL_PROTOCOL_VERSION)
deriving Decidable

/-- The amount that the script of a burn asks for. -/
def withdrawalAmount (script : CScript) : UInt64 := UInt64.ofNat (readBE ((script.drop 59).take 8))

/-- The asset and the amount of a burn: both are explicit, and the amount that is asked for is the
amount that is burned. -/
def burnAmount (output : Child.CTxOut) : Option (Uint256 × UInt64) :=
  if IsWithdrawalScript output.scriptPubKey then
    match output.nAsset, output.nValue, output.nNonce with
    | .explicit asset, .explicit value, .null =>
      let amount := withdrawalAmount output.scriptPubKey
      if asset = 0 ∨ value ≤ 0 ∨ amount = 0 ∨ amount.toNat > MAX_WITHDRAWAL_USDT_MICRO ∨
          amount.toNat > (2 ^ 64 - 1) / USDD_UNITS_PER_USDT_MICRO ∨
          (amount.toNat * USDD_UNITS_PER_USDT_MICRO : ℤ) ≠ value then none
      else some (asset, amount)
    | _, _, _ => none
  else none

/-- The vault and the recipient that the script of a burn names; neither is zero. -/
def burnTarget (script : CScript) : Option (WithdrawalHash × EthereumAddress) :=
  let vaultId := Uint256.ofBytes ((script.drop 7).take 32)
  let recipient := EthereumAddress.ofBytes ((script.drop 39).take 20)
  if vaultId = 0 ∨ recipient.data.all (· = 0) then none else some (vaultId, recipient)

/-- What an output burns. -/
structure Burn where
  txidDisplay : WithdrawalHash
  vout : UInt32
  assetId : WithdrawalHash
  vaultId : WithdrawalHash
  amountUsdtMicro : UInt64
  recipient : EthereumAddress
deriving DecidableEq

/-- What the output at a position of a transaction burns, if it is a burn. -/
def burnAt (txidDisplay : WithdrawalHash) (site : Child.CTxOut × ℕ) : Option Burn := do
  let (asset, amount) ← burnAmount site.1
  let (vaultId, recipient) ← burnTarget site.1.scriptPubKey
  pure ⟨txidDisplay, UInt32.ofNat site.2, asset.displayBytes, vaultId, amount, recipient⟩

variable (sha256 : Bytes → WithdrawalHash)

/-- The claim to a burn under a number. -/
def Burn.claim (genesisDisplay : WithdrawalHash) (burn : Burn) (index : ℕ) :
    EthereumWithdrawalClaim :=
  let claim : EthereumWithdrawalClaim :=
    { elementsGenesis := genesisDisplay
      assetId := burn.assetId
      vaultId := burn.vaultId
      burnTxidDisplay := burn.txidDisplay
      burnVout := burn.vout
      burnId := computeWithdrawalBurnId sha256 genesisDisplay burn.txidDisplay burn.vout
      claimIndex := UInt64.ofNat index
      amountUsdtMicro := burn.amountUsdtMicro
      recipient := burn.recipient }
  { claim with leaf := computeWithdrawalLeaf sha256 claim }

/-! ### Blocks -/

/-- Scan one output.  The number of the claim is checked before the vault and the recipient are. -/
def extractOutput (genesisDisplay txidDisplay : WithdrawalHash) (firstIndex : ℕ)
    (claims : List EthereumWithdrawalClaim) (site : Child.CTxOut × ℕ) :
    Except String (List EthereumWithdrawalClaim) :=
  match burnAmount site.1 with
  | none => .ok claims
  | some (asset, amount) =>
    if claims.length > 2 ^ 64 - 1 - firstIndex then .error "USDD withdrawal claim index overflow"
    else
      match burnTarget site.1.scriptPubKey with
      | none => .ok claims
      | some (vaultId, recipient) =>
        let burn : Burn :=
          ⟨txidDisplay, UInt32.ofNat site.2, asset.displayBytes, vaultId, amount, recipient⟩
        .ok (claims ++ [burn.claim sha256 genesisDisplay (firstIndex + claims.length)])

/-- Scan a block; the first claim gets the number `firstIndex`. -/
def extractEthereumWithdrawals (block : Child.CBlock) (elementsGenesis : Uint256)
    (firstIndex : ℕ) : Except String (List EthereumWithdrawalClaim) := do
  rejectIf (elementsGenesis = 0) "zero Elements genesis in withdrawal accumulator"
  block.vtx.foldlM (fun claims tx => tx.vout.zipIdx.foldlM
    (extractOutput sha256 elementsGenesis.displayBytes tx.hash.displayBytes firstIndex) claims) []

/-- The state after a block and the claims of the block. -/
def applyEthereumWithdrawals (block : Child.CBlock) (elementsGenesis : Uint256)
    (previous : WithdrawalAccumulatorState) :
    Except String (WithdrawalAccumulatorState × List EthereumWithdrawalClaim) := do
  rejectIf (¬previous.IsSane sha256) "malformed prior USDD withdrawal accumulator state"
  let extracted ← extractEthereumWithdrawals sha256 block elementsGenesis previous.count
  let next ← previous.appendAll sha256 (extracted.map (·.leaf))
  pure (next, extracted)

/-- One block after the other, from the empty state. -/
def applyChain (elementsGenesis : Uint256) (blocks : List Child.CBlock) :
    Except String (WithdrawalAccumulatorState × List EthereumWithdrawalClaim) :=
  blocks.foldlM (fun acc block => do
    let (next, claims) ← applyEthereumWithdrawals sha256 block elementsGenesis acc.1
    pure (next, acc.2 ++ claims)) (WithdrawalAccumulatorState.empty sha256, [])

/-- The burns of a block, in order. -/
def burnsOf (block : Child.CBlock) : List Burn :=
  block.vtx.flatMap fun tx => tx.vout.zipIdx.filterMap (burnAt tx.hash.displayBytes)

/-- The claims to some burns, numbered from `first`. -/
def claimsFrom (genesisDisplay : WithdrawalHash) (first : ℕ) (burns : List Burn) :
    List EthereumWithdrawalClaim :=
  burns.mapIdx fun i burn => burn.claim sha256 genesisDisplay (first + i)

/-- The claims to the burns of a chain. -/
def chainClaims (elementsGenesis : Uint256) (blocks : List Child.CBlock) :
    List EthereumWithdrawalClaim :=
  claimsFrom sha256 elementsGenesis.displayBytes 0 (blocks.flatMap burnsOf)

/-! ### One claim for each burn -/

variable {sha256} {genesisDisplay : WithdrawalHash} {first : ℕ}

theorem claimsFrom_append (burns burns' : List Burn) :
    claimsFrom sha256 genesisDisplay first (burns ++ burns') =
      claimsFrom sha256 genesisDisplay first burns ++
        claimsFrom sha256 genesisDisplay (first + burns.length) burns' := by
  simp only [claimsFrom, List.mapIdx_append, Nat.add_assoc, Nat.add_comm burns.length]

theorem length_claimsFrom (burns : List Burn) :
    (claimsFrom sha256 genesisDisplay first burns).length = burns.length :=
  List.length_mapIdx

variable (sha256 genesisDisplay first) in
/-- A program appends the claims to some burns, at least when their numbers fit. -/
structure Scans (scan : List EthereumWithdrawalClaim → Except String (List EthereumWithdrawalClaim))
    (burns : List Burn) : Prop where
  eq_of_ok : ∀ {claims claims'}, scan claims = .ok claims' →
    claims' = claims ++ claimsFrom sha256 genesisDisplay (first + claims.length) burns
  ok_of_room : ∀ claims, first + claims.length + burns.length < 2 ^ 64 →
    ∃ claims', scan claims = .ok claims'

theorem Scans.foldlM {α : Type}
    {f : List EthereumWithdrawalClaim → α → Except String (List EthereumWithdrawalClaim)}
    {burns : α → List Burn} {l : List α}
    (h : ∀ a ∈ l, Scans sha256 genesisDisplay first (f · a) (burns a)) :
    Scans sha256 genesisDisplay first (l.foldlM f ·) (l.flatMap burns) := by
  induction l with
  | nil =>
    refine ⟨fun h => ?_, fun _ _ => ⟨_, rfl⟩⟩
    simpa [claimsFrom] using (foldlM_nil_eq_ok.1 h).symm
  | cons a l ih =>
    have ha := h a List.mem_cons_self
    have hl := ih fun b hb => h b (List.mem_cons_of_mem a hb)
    constructor
    · intro claims claims' heq
      obtain ⟨claims₁, h₁, h₂⟩ := foldlM_cons_eq_ok.1 heq
      rw [hl.eq_of_ok h₂, ha.eq_of_ok h₁, List.flatMap_cons, claimsFrom_append, List.length_append,
        length_claimsFrom, List.append_assoc, Nat.add_assoc]
    · intro claims hroom
      rw [List.flatMap_cons, List.length_append] at hroom
      obtain ⟨claims₁, h₁⟩ := ha.ok_of_room claims (by omega)
      have hlength : claims₁.length = claims.length + (burns a).length := by
        rw [ha.eq_of_ok h₁, List.length_append, length_claimsFrom]
      obtain ⟨claims₂, h₂⟩ := hl.ok_of_room claims₁ (by omega)
      exact ⟨claims₂, foldlM_cons_eq_ok.2 ⟨claims₁, h₁, h₂⟩⟩

theorem scans_extractOutput (txidDisplay : WithdrawalHash) (site : Child.CTxOut × ℕ) :
    Scans sha256 genesisDisplay first
      (extractOutput sha256 genesisDisplay txidDisplay first · site)
      (burnAt txidDisplay site).toList := by
  unfold extractOutput burnAt
  cases burnAmount site.1 with
  | none => exact ⟨fun h => by simpa [claimsFrom] using h.symm, fun _ _ => ⟨_, rfl⟩⟩
  | some burned =>
    cases burnTarget site.1.scriptPubKey with
    | none =>
      refine ⟨fun h => ?_, fun claims hroom => ⟨claims, if_neg (by simp at hroom; omega)⟩⟩
      simp only at h
      split_ifs at h
      simpa [claimsFrom] using h.symm
    | some target =>
      refine ⟨fun h => ?_, fun claims hroom => ⟨_, if_neg (by simp at hroom; omega)⟩⟩
      simp only at h
      split_ifs at h
      simpa [claimsFrom] using h.symm

variable {elementsGenesis : Uint256} {block : Child.CBlock}

variable (sha256 block first) in
/-- **A block gives one claim for each of its burns**, in order and numbered without gaps. -/
theorem extractEthereumWithdrawals_spec (hgenesis : elementsGenesis ≠ 0) :
    (∀ {claims}, extractEthereumWithdrawals sha256 block elementsGenesis first = .ok claims →
      claims = claimsFrom sha256 elementsGenesis.displayBytes first (burnsOf block)) ∧
    (first + (burnsOf block).length < 2 ^ 64 →
      ∃ claims, extractEthereumWithdrawals sha256 block elementsGenesis first = .ok claims) := by
  have hscan : Scans sha256 elementsGenesis.displayBytes first
      (block.vtx.foldlM (fun claims tx => tx.vout.zipIdx.foldlM (extractOutput sha256
        elementsGenesis.displayBytes tx.hash.displayBytes first) claims) ·) (burnsOf block) :=
    Scans.foldlM fun tx _ => by
      rw [List.filterMap_eq_flatMap_toList]
      exact Scans.foldlM fun site _ => scans_extractOutput _ site
  simp only [extractEthereumWithdrawals, bind_eq_ok, rejectIf_eq_ok]
  constructor
  · rintro claims ⟨_, -, h⟩
    simpa using hscan.eq_of_ok h
  · intro hroom
    obtain ⟨claims, h⟩ := hscan.ok_of_room [] (by simpa using hroom)
    exact ⟨claims, (), hgenesis, h⟩

/-- The accumulator after a block, when the one before it describes leaves. -/
theorem applyEthereumWithdrawals_eq_ok (hgenesis : elementsGenesis ≠ 0)
    {leaves : List WithdrawalHash} {previous next : WithdrawalAccumulatorState}
    (h : previous.Describes sha256 leaves) {claims : List EthereumWithdrawalClaim} :
    applyEthereumWithdrawals sha256 block elementsGenesis previous = .ok (next, claims) ↔
      claims = claimsFrom sha256 elementsGenesis.displayBytes leaves.length (burnsOf block) ∧
      next.Describes sha256 (leaves ++ claims.map (·.leaf)) := by
  obtain ⟨heq, hok⟩ := extractEthereumWithdrawals_spec sha256 leaves.length block hgenesis
  simp only [applyEthereumWithdrawals, bind_eq_ok, rejectIf_eq_ok, pure_eq_ok, Prod.mk.injEq,
    h.appendAll_eq_ok, h.count]
  constructor
  · rintro ⟨_, -, extracted, hextract, _, hnext, rfl, rfl⟩
    exact ⟨heq hextract, hnext⟩
  · rintro ⟨rfl, hnext⟩
    have hroom : leaves.length + (burnsOf block).length < 2 ^ 64 := by
      have := hnext.length_lt
      rwa [List.length_append, List.length_map, length_claimsFrom] at this
    obtain ⟨extracted, hextract⟩ := hok hroom
    obtain rfl := heq hextract
    exact ⟨(), not_not.2 h.isSane, _, hextract, next, hnext, rfl, rfl⟩

theorem chainClaims_snoc (blocks : List Child.CBlock) :
    chainClaims sha256 elementsGenesis (blocks ++ [block]) =
      chainClaims sha256 elementsGenesis blocks ++ claimsFrom sha256 elementsGenesis.displayBytes
        (chainClaims sha256 elementsGenesis blocks).length (burnsOf block) := by
  simp only [chainClaims, List.flatMap_append, List.flatMap_singleton, claimsFrom_append,
    length_claimsFrom, Nat.zero_add]

theorem genesis_ne_zero_of_applyChain {blocks : List Child.CBlock}
    {r : WithdrawalAccumulatorState × List EthereumWithdrawalClaim}
    (h : applyChain sha256 elementsGenesis blocks = .ok r) : blocks ≠ [] → elementsGenesis ≠ 0 := by
  intro hne
  obtain ⟨block, rest, rfl⟩ := List.exists_cons_of_ne_nil hne
  obtain ⟨_, hfirst, -⟩ := foldlM_cons_eq_ok.1 h
  simp only [applyEthereumWithdrawals, extractEthereumWithdrawals, bind_eq_ok, rejectIf_eq_ok]
    at hfirst
  obtain ⟨_, ⟨_, -, _, ⟨_, hgenesis, -⟩, -⟩, -⟩ := hfirst
  exact hgenesis

/-- **The accumulator of a chain is that of all its burns.** -/
theorem applyChain_eq_ok {blocks : List Child.CBlock} (hgenesis : blocks ≠ [] → elementsGenesis ≠ 0)
    {state : WithdrawalAccumulatorState} {claims : List EthereumWithdrawalClaim} :
    applyChain sha256 elementsGenesis blocks = .ok (state, claims) ↔
      claims = chainClaims sha256 elementsGenesis blocks ∧
      state.Describes sha256 (claims.map (·.leaf)) := by
  induction blocks using List.reverseRecOn generalizing state claims with
  | nil =>
    rw [applyChain, foldlM_nil_eq_ok, Prod.mk.injEq]
    constructor
    · rintro ⟨rfl, rfl⟩
      exact ⟨rfl, WithdrawalAccumulatorState.describes_empty⟩
    · rintro ⟨rfl, h⟩
      exact ⟨WithdrawalAccumulatorState.describes_empty.unique h, rfl⟩
  | append_singleton blocks block ih =>
    have hgenesis := hgenesis (by simp)
    have ih := @ih fun _ => hgenesis
    rw [applyChain, foldlM_append_eq_ok, chainClaims_snoc]
    simp only [List.foldlM_cons, List.foldlM_nil, bind_pure, bind_eq_ok, pure_eq_ok, Prod.mk.injEq]
    constructor
    · rintro ⟨⟨previous, old⟩, hchain, ⟨next, new⟩, hnext, rfl, rfl⟩
      obtain ⟨rfl, hprevious⟩ := ih.1 hchain
      obtain ⟨rfl, h⟩ := (applyEthereumWithdrawals_eq_ok hgenesis hprevious).1 hnext
      rw [← List.map_append, List.length_map] at h
      exact ⟨by rw [List.length_map], by rwa [List.length_map]⟩
    · rintro ⟨rfl, h⟩
      rw [List.map_append] at h
      have hlt : ((chainClaims sha256 elementsGenesis blocks).map (·.leaf)).length < 2 ^ 64 := by
        have := h.length_lt
        rw [List.length_append] at this
        omega
      obtain ⟨previous, hprevious⟩ := WithdrawalAccumulatorState.exists_describes sha256 hlt
      have hnext := (applyEthereumWithdrawals_eq_ok hgenesis hprevious).2
        ⟨by rw [List.length_map], h⟩
      exact ⟨(previous, _), ih.2 ⟨rfl, hprevious⟩, (state, _), hnext, rfl, rfl⟩

end ElementsDrivechain.Usdd
