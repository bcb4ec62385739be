import ElementsDrivechain.Ecx.Liveness
import ElementsDrivechain.Foundations.HashChain
import Mathlib.Data.Set.Function

/-!
# The roots of the inboxes commit to their entries

The two inboxes are chains of hashes: an entry is hashed under a tag together with the head before
it and its place, and the hash of that under another tag is the next head.  The fields that are
hashed together have fixed widths, but for the last one, so that nothing about them is ambiguous.

* `InboxHashes.binding` : **inboxes with the same head have the same entries**, unless the hashes
  collide on what was hashed.
* `inbox_binding` : the same for the roots that two chains of blocks commit to.
-/

namespace ElementsDrivechain.Ecx

open Fallible

/-! ### What is hashed -/

/-- What is hashed when an inbox grows: tags, and the bytes of its first head and of entries. -/
structure InboxHashes (ε : Type) where
  /-- The tag of the empty inbox. -/
  genesisTag : String
  genesisPayload : Bytes
  /-- The tag of an entry. -/
  entryTag : String
  /-- The tag of an appended entry. -/
  stepTag : String
  /-- What is hashed of an entry. -/
  payload : InboxTracker → ε → Bytes

namespace InboxHashes

variable {ε : Type} (I : InboxHashes ε) (C : ExchangeCrypto)

/-- The empty inbox. -/
def genesis : InboxTracker where
  root := taggedHash C I.genesisTag I.genesisPayload

/-- Append an entry. -/
def append (tracker : InboxTracker) (entry : ε) : InboxTracker :=
  tracker.append C I.stepTag (taggedHash C I.entryTag (I.payload tracker entry))

/-- What is hashed when an entry is appended, with the tags. -/
def entryKeys (a : InboxTracker × ε) : List (String × Bytes) :=
  [(I.entryTag, I.payload a.1 a.2),
    (I.stepTag, a.1.stepPayload (taggedHash C I.entryTag (I.payload a.1 a.2)))]

/-- Everything that is hashed on the way to the head over some entries, with the tags. -/
def keys (entries : List ε) : List (String × Bytes) :=
  (I.genesisTag, I.genesisPayload) ::
    (HashChain.appends (I.append C) (I.genesis C) entries).flatMap (I.entryKeys C)

end InboxHashes

/-- No two of the keys have the same hash. -/
def CollisionFree (C : ExchangeCrypto) (keys : List (String × Bytes)) : Prop :=
  Set.InjOn (fun key : String × Bytes => taggedHash C key.1 key.2) {key | key ∈ keys}

instance (C : ExchangeCrypto) (keys : List (String × Bytes)) : Decidable (CollisionFree C keys) :=
  decidable_of_iff (∀ key ∈ keys, ∀ key' ∈ keys,
    taggedHash C key.1 key.2 = taggedHash C key'.1 key'.2 → key = key')
    ⟨fun h key hkey key' hkey' => h key hkey key' hkey', fun h _ hkey _ hkey' => h hkey hkey'⟩

section Binding

variable {ε : Type} {I : InboxHashes ε} {C : ExchangeCrypto} {es es' : List ε}
  {R : ε → ε → Prop} {keys : List (String × Bytes)}

theorem CollisionFree.eq (h : CollisionFree C keys) {tag tag' : String} {b b' : Bytes}
    (hb : (tag, b) ∈ keys) (hb' : (tag', b') ∈ keys)
    (heq : taggedHash C tag b = taggedHash C tag' b') : tag = tag' ∧ b = b' := by
  have := h hb hb' heq
  exact ⟨congrArg Prod.fst this, congrArg Prod.snd this⟩

theorem stepPayload_inj {tracker tracker' : InboxTracker} {hash hash' : Uint256}
    (h : tracker.stepPayload hash = tracker'.stepPayload hash') : hash = hash' := by
  obtain ⟨-, h⟩ := Uint256.append_inj h
  obtain ⟨-, h⟩ := writeBE_append_inj (tracker.count.toNat_lt.trans_eq (by decide))
    (tracker'.count.toNat_lt.trans_eq (by decide)) h
  exact Uint256.data_injective h

theorem InboxHashes.genesis_mem (es : List ε) : (I.genesisTag, I.genesisPayload) ∈ I.keys C es :=
  List.mem_cons_self

theorem InboxHashes.entry_mem {a : InboxTracker × ε}
    (ha : a ∈ HashChain.appends (I.append C) (I.genesis C) es) {key : String × Bytes}
    (hkey : key ∈ I.entryKeys C a) : key ∈ I.keys C es :=
  List.mem_cons_of_mem _ (List.mem_flatMap.2 ⟨a, ha, hkey⟩)

/-- **Inboxes with the same head have the same entries**, unless the hashes collide. -/
theorem InboxHashes.binding (hfree : CollisionFree C (I.keys C es ++ I.keys C es'))
    (htags : I.genesisTag ≠ I.stepTag)
    (hpayload : ∀ a ∈ HashChain.appends (I.append C) (I.genesis C) es,
      ∀ a' ∈ HashChain.appends (I.append C) (I.genesis C) es',
      I.payload a.1 a.2 = I.payload a'.1 a'.2 → a.1 = a'.1 ∧ R a.2 a'.2)
    (h : (es.foldl (I.append C) (I.genesis C)).root = (es'.foldl (I.append C) (I.genesis C)).root) :
    List.Forall₂ R es es' := by
  refine HashChain.binding InboxTracker.root ?_ ?_ ?_ h
  · intro a ha a' ha' heq
    obtain ⟨-, hstep⟩ := hfree.eq (List.mem_append_left _ (entry_mem ha (by simp [entryKeys])))
      (List.mem_append_right _ (entry_mem ha' (by simp [entryKeys]))) heq
    obtain ⟨-, hentry⟩ := hfree.eq (List.mem_append_left _ (entry_mem ha (by simp [entryKeys])))
      (List.mem_append_right _ (entry_mem ha' (by simp [entryKeys]))) (stepPayload_inj hstep)
    exact hpayload a ha a' ha' hentry
  · intro a ha heq
    exact htags (hfree.eq (List.mem_append_left _ (entry_mem ha (by simp [entryKeys])))
      (List.mem_append_left _ (genesis_mem es)) heq).1.symm
  · intro a ha heq
    exact htags (hfree.eq (List.mem_append_right _ (entry_mem ha (by simp [entryKeys])))
      (List.mem_append_left _ (genesis_mem es)) heq).1.symm

end Binding

/-! ### The two inboxes -/

/-- What is hashed for the inbox of forced actions. -/
def forcedHashes (consensus : ExchangeConsensus) : InboxHashes ForcedEntry where
  genesisTag := "ECX/forced-inbox-genesis/v1"
  genesisPayload := consensus.forcedActionDomain.data ++ consensus.chainId.data
  entryTag := "ECX/forced-action-entry/v1"
  stepTag := "ECX/forced-inbox-step/v1"
  payload tracker entry := entry.payload consensus tracker

/-- What is hashed for the inbox of deposits. -/
def depositHashes (C : ExchangeCrypto) (consensus : ExchangeConsensus) :
    InboxHashes DepositEntry where
  genesisTag := "ECX/deposit-inbox-genesis/v1"
  genesisPayload := consensus.depositInboxDomain.data ++ consensus.chainId.data
  entryTag := "ECX/deposit-event/v1"
  stepTag := "ECX/deposit-inbox-step/v1"
  payload tracker entry := entry.payload C consensus tracker

/-- The numbers of an entry have the widths that they are written with. -/
structure ForcedEntry.Fits (entry : ForcedEntry) : Prop where
  vout : entry.sourceVout < 2 ^ 32
  sidechain : entry.sidechainHeight < 2 ^ 64
  parent : entry.parentHeight < 2 ^ 64

/-- The numbers of an entry have the widths that they are written with. -/
structure DepositEntry.Fits (entry : DepositEntry) : Prop where
  deposit : entry.depositVout < 2 ^ 32
  marker : entry.markerVout < 2 ^ 32
  sidechain : entry.sidechainHeight < 2 ^ 64
  parent : entry.parentHeight < 2 ^ 64

/-- Two deposits agree in everything, and in the hash of the output that holds them. -/
structure SameDeposit (C : ExchangeCrypto) (e e' : DepositEntry) : Prop where
  source : e.sourceTxid = e'.sourceTxid
  depositVout : e.depositVout = e'.depositVout
  markerVout : e.markerVout = e'.markerVout
  output : txOutHash C e.output = txOutHash C e'.output
  trader : e.trader = e'.trader
  sidechain : e.sidechainHeight = e'.sidechainHeight
  parent : e.parentHeight = e'.parentHeight

section Payloads

variable {C : ExchangeCrypto} {consensus : ExchangeConsensus} {tracker tracker' : InboxTracker}
  {rest rest' : Bytes} {h h' p p' : ℕ}

theorem placeBytes_append_inj (hh : h < 2 ^ 64) (hh' : h' < 2 ^ 64) (hp : p < 2 ^ 64)
    (hp' : p' < 2 ^ 64)
    (heq : tracker.placeBytes consensus h p ++ rest =
      tracker'.placeBytes consensus h' p' ++ rest') :
    tracker = tracker' ∧ h = h' ∧ p = p' ∧ rest = rest' := by
  simp only [InboxTracker.placeBytes, List.cons_append, List.append_assoc, List.cons.injEq,
    true_and, List.append_cancel_left_eq] at heq
  obtain ⟨hcount, heq⟩ := writeBE_append_inj (tracker.count.toNat_lt.trans_eq (by decide))
    (tracker'.count.toNat_lt.trans_eq (by decide)) heq
  obtain ⟨hroot, heq⟩ := Uint256.append_inj heq
  obtain ⟨hside, heq⟩ := writeBE_append_inj (hh.trans_eq (by decide)) (hh'.trans_eq (by decide)) heq
  obtain ⟨hparent, heq⟩ :=
    writeBE_append_inj (hp.trans_eq (by decide)) (hp'.trans_eq (by decide)) heq
  refine ⟨?_, hside, hparent, heq⟩
  cases tracker
  cases tracker'
  simp only [InboxTracker.mk.injEq]
  exact ⟨hroot, UInt64.toNat_inj.1 hcount⟩

theorem ForcedEntry.payload_inj {e e' : ForcedEntry} (he : e.Fits) (he' : e'.Fits)
    (heq : e.payload consensus tracker = e'.payload consensus tracker') :
    tracker = tracker' ∧ e = e' := by
  obtain ⟨htracker, hside, hparent, heq⟩ :=
    placeBytes_append_inj he.sidechain he'.sidechain he.parent he'.parent heq
  obtain ⟨hsource, heq⟩ := Uint256.append_inj heq
  obtain ⟨hvout, heq⟩ := writeBE_append_inj (he.vout.trans_eq (by decide))
    (he'.vout.trans_eq (by decide)) heq
  obtain ⟨hkind, hbody⟩ := List.cons.inj heq
  refine ⟨htracker, ?_⟩
  cases e
  cases e'
  simp only [ForcedEntry.mk.injEq]
  exact ⟨hkind, hbody, hsource, hvout, hside, hparent⟩

theorem DepositEntry.payload_inj {e e' : DepositEntry} (he : e.Fits) (he' : e'.Fits)
    (heq : e.payload C consensus tracker = e'.payload C consensus tracker') :
    tracker = tracker' ∧ SameDeposit C e e' := by
  obtain ⟨htracker, hside, hparent, heq⟩ :=
    placeBytes_append_inj he.sidechain he'.sidechain he.parent he'.parent heq
  obtain ⟨hsource, heq⟩ := Uint256.append_inj heq
  obtain ⟨hdeposit, heq⟩ := writeBE_append_inj (he.deposit.trans_eq (by decide))
    (he'.deposit.trans_eq (by decide)) heq
  obtain ⟨hmarker, heq⟩ := writeBE_append_inj (he.marker.trans_eq (by decide))
    (he'.marker.trans_eq (by decide)) heq
  obtain ⟨houtput, htrader⟩ := Uint256.append_inj heq
  exact ⟨htracker, hsource, hdeposit, hmarker, houtput, htrader, hside, hparent⟩

end Payloads

section Chains

variable {N : ExchangeNetwork} {s s' : ExchangeChain} {ls : List ChainBlock}

theorem scanSources_of_mem {b : ChainBlock} {x : Child.CTransaction × Sources}
    (hx : x ∈ b.sources N) : scanSources N x.1 = .ok x.2 := by
  unfold ChainBlock.sources at hx
  cases hsources : blockSources N b.block.vtx with
  | error e =>
    rw [hsources] at hx
    cases hx
  | ok sources =>
    rw [hsources] at hx
    exact (of_mem_blockSources hsources hx).2

/-- The heights of blocks are those of an `int`. -/
def HeightsFit (ls : List ChainBlock) : Prop := ∀ b ∈ ls, b.height ≤ INT_MAX
deriving Decidable

theorem committedParentHeight_lt (b : ChainBlock) : b.committedParentHeight < 2 ^ 64 :=
  b.block.ecxParentHeight.toNat_lt.trans (by decide)

theorem toNat_height_lt {b : ChainBlock} (h : b.height ≤ INT_MAX) : b.height.toNat < 2 ^ 64 := by
  rw [INT_MAX] at h
  omega

theorem forcedHistory_fits (hfit : HeightsFit ls) {e : ForcedEntry}
    (he : e ∈ forcedHistory N ls) : e.Fits := by
  simp only [forcedHistory, forcedEntries, List.mem_flatMap, List.mem_map] at he
  obtain ⟨b, hb, x, hx, m, hm, rfl⟩ := he
  have hvout := (scanSources_index_lt (scanSources_of_mem hx)).1 m (Option.mem_toList.1 hm)
  exact ⟨hvout.trans x.1.vout_length_lt, toNat_height_lt (hfit b hb), committedParentHeight_lt b⟩

theorem depositHistory_fits (hfit : HeightsFit ls) {e : DepositEntry}
    (he : e ∈ depositHistory N ls) : e.Fits := by
  simp only [depositHistory, depositEntries, List.mem_flatMap, List.mem_map] at he
  obtain ⟨b, hb, x, hx, m, hm, rfl⟩ := he
  obtain ⟨hmarker, hdeposit⟩ :=
    (scanSources_index_lt (scanSources_of_mem hx)).2 m (Option.mem_toList.1 hm)
  exact ⟨hdeposit.trans x.1.vout_length_lt, hmarker.trans x.1.vout_length_lt,
    toNat_height_lt (hfit b hb), committedParentHeight_lt b⟩

/-- The inboxes of a chain are its entries, appended to empty inboxes. -/
theorem inboxes_of_run (hmax : N.consensus.activationHeight ≠ INT_MAX)
    (hstart : s.height + 1 = N.consensus.activationHeight) (h : Run (Connects N) s ls s') :
    ∃ t cursors oldest, Position N s' t cursors oldest ∧
      t.forced = (forcedGenesis N).appendAllForced N (forcedHistory N ls) ∧
      t.deposits = (depositGenesis N).appendAllDeposits N (depositHistory N ls) := by
  refine h.history ⟨_, _, _, .start hstart, rfl, rfl⟩ ?_
  rintro ls s b s' - ⟨t, cursors, oldest, hpos, hforced, hdeposits⟩ hb
  obtain ⟨expected, seen, spent, hadvances⟩ := connects_advances hmax hpos hb
  obtain ⟨-, hforced', hdeposits'⟩ := hadvances.inboxes
  refine ⟨_, _, _, hadvances.position, ?_, ?_⟩
  · rw [forcedHistory_snoc, InboxTracker.appendAllForced_append, ← hforced]
    exact hforced'
  · rw [depositHistory_snoc, InboxTracker.appendAllDeposits_append, ← hdeposits]
    exact hdeposits'

/-- The roots that a block commits to are the heads over the entries of its chain. -/
theorem roots_of_run {b : ChainBlock} (hmax : N.consensus.activationHeight ≠ INT_MAX)
    (hstart : s.height + 1 = N.consensus.activationHeight)
    (h : Run (Connects N) s (ls ++ [b]) s') :
    b.block.hashForcedInboxRoot = ((forcedHistory N (ls ++ [b])).foldl
      ((forcedHashes N.consensus).append N.toExchangeCrypto)
      ((forcedHashes N.consensus).genesis N.toExchangeCrypto)).root ∧
    b.block.hashDepositInboxRoot = ((depositHistory N (ls ++ [b])).foldl
      ((depositHashes N.toExchangeCrypto N.consensus).append N.toExchangeCrypto)
      ((depositHashes N.toExchangeCrypto N.consensus).genesis N.toExchangeCrypto)).root := by
  obtain ⟨m, hrun, hb⟩ := Run.snoc_iff.1 h
  obtain ⟨t, cursors, oldest, hpos, hforced, hdeposits⟩ := inboxes_of_run hmax hstart hrun
  obtain ⟨expected, seen, spent, hadvances⟩ := connects_advances hmax hpos hb
  obtain ⟨-, hforced', hdeposits'⟩ := hadvances.inboxes
  obtain ⟨-, hroot, hroot', -⟩ := hadvances.committedBy
  constructor
  · rw [hroot, hforced', hforced, ← InboxTracker.appendAllForced_append, ← forcedHistory_snoc]
    rfl
  · rw [hroot', hdeposits', hdeposits, ← InboxTracker.appendAllDeposits_append,
      ← depositHistory_snoc]
    rfl

/-- **The roots of the inboxes commit to their entries.**  Let two chains of blocks go on from the
activation under the same rules, and let no two of the things that were hashed on the way to their
inboxes collide.  If the last blocks commit to the same root of the forced actions, the chains have
the same forced actions; if they commit to the same root of the deposits, the chains have the same
deposits. -/
theorem inbox_binding {s₁ s₂ s₁' s₂' : ExchangeChain} {ls₁ ls₂ : List ChainBlock}
    {b₁ b₂ : ChainBlock} (hmax : N.consensus.activationHeight ≠ INT_MAX)
    (hstart₁ : s₁.height + 1 = N.consensus.activationHeight)
    (hstart₂ : s₂.height + 1 = N.consensus.activationHeight)
    (h₁ : Run (Connects N) s₁ (ls₁ ++ [b₁]) s₁') (h₂ : Run (Connects N) s₂ (ls₂ ++ [b₂]) s₂')
    (hfit₁ : HeightsFit (ls₁ ++ [b₁])) (hfit₂ : HeightsFit (ls₂ ++ [b₂]))
    (hforced : CollisionFree N.toExchangeCrypto
      ((forcedHashes N.consensus).keys N.toExchangeCrypto (forcedHistory N (ls₁ ++ [b₁])) ++
        (forcedHashes N.consensus).keys N.toExchangeCrypto (forcedHistory N (ls₂ ++ [b₂]))))
    (hdeposits : CollisionFree N.toExchangeCrypto
      ((depositHashes N.toExchangeCrypto N.consensus).keys N.toExchangeCrypto
          (depositHistory N (ls₁ ++ [b₁])) ++
        (depositHashes N.toExchangeCrypto N.consensus).keys N.toExchangeCrypto
          (depositHistory N (ls₂ ++ [b₂])))) :
    (b₁.block.hashForcedInboxRoot = b₂.block.hashForcedInboxRoot →
      forcedHistory N (ls₁ ++ [b₁]) = forcedHistory N (ls₂ ++ [b₂])) ∧
    (b₁.block.hashDepositInboxRoot = b₂.block.hashDepositInboxRoot →
      List.Forall₂ (SameDeposit N.toExchangeCrypto) (depositHistory N (ls₁ ++ [b₁]))
        (depositHistory N (ls₂ ++ [b₂]))) := by
  obtain ⟨hf₁, hd₁⟩ := roots_of_run hmax hstart₁ h₁
  obtain ⟨hf₂, hd₂⟩ := roots_of_run hmax hstart₂ h₂
  constructor
  · intro hroot
    rw [hf₁, hf₂] at hroot
    have htags : (forcedHashes N.consensus).genesisTag ≠ (forcedHashes N.consensus).stepTag := by
      simp [forcedHashes]
    have hall : List.Forall₂ (· = ·) (forcedHistory N (ls₁ ++ [b₁]))
        (forcedHistory N (ls₂ ++ [b₂])) := by
      refine InboxHashes.binding hforced htags (fun a ha a' ha' heq => ?_) hroot
      exact ForcedEntry.payload_inj (forcedHistory_fits hfit₁ (HashChain.mem_of_mem_appends ha))
        (forcedHistory_fits hfit₂ (HashChain.mem_of_mem_appends ha')) heq
    rwa [List.forall₂_eq_eq_eq] at hall
  · intro hroot
    rw [hd₁, hd₂] at hroot
    have htags : (depositHashes N.toExchangeCrypto N.consensus).genesisTag ≠
        (depositHashes N.toExchangeCrypto N.consensus).stepTag := by
      simp [depositHashes]
    refine InboxHashes.binding hdeposits htags (fun a ha a' ha' heq => ?_) hroot
    exact DepositEntry.payload_inj (depositHistory_fits hfit₁ (HashChain.mem_of_mem_appends ha))
      (depositHistory_fits hfit₂ (HashChain.mem_of_mem_appends ha')) heq

end Chains

namespace Sample

/-- A deposit and a forced action, after an activation at any height of the parent chain. -/
def inboxBlocks (parentHeight : UInt32) : List (List Child.CTransaction × UInt32) :=
  [([], parentHeight), ([depositTransaction,
    { vin := []
      vout := [{ nAsset := .explicit (.ofByte 8), nValue := .explicit 0
                 scriptPubKey := cancelScript }]
      hash := .ofByte 8 }], 101)]

/-- What two chains of different blocks have in common. -/
def SameRoots (bs₁ bs₂ : List ChainBlock) : Prop :=
  (bs₁.length = 2 ∧ bs₂.length = 3 ∧ (forcedHistory exchangeNetwork bs₁).length = 1 ∧
    (depositHistory exchangeNetwork bs₁).length = 1) ∧ HeightsFit bs₁ ∧ HeightsFit bs₂ ∧
  CollisionFree exchangeCrypto
    ((forcedHashes exchangeNetwork.consensus).keys exchangeCrypto
        (forcedHistory exchangeNetwork bs₁) ++
      (forcedHashes exchangeNetwork.consensus).keys exchangeCrypto
        (forcedHistory exchangeNetwork bs₂)) ∧
  CollisionFree exchangeCrypto
    ((depositHashes exchangeCrypto exchangeNetwork.consensus).keys exchangeCrypto
        (depositHistory exchangeNetwork bs₁) ++
      (depositHashes exchangeCrypto exchangeNetwork.consensus).keys exchangeCrypto
        (depositHistory exchangeNetwork bs₂)) ∧
  bs₁.getLast?.map (·.block.hashForcedInboxRoot) = bs₂.getLast?.map (·.block.hashForcedInboxRoot) ∧
  bs₁.getLast?.map (·.block.hashDepositInboxRoot) = bs₂.getLast?.map (·.block.hashDepositInboxRoot)
deriving Decidable

end Sample

open Ecx.Sample

/-- Two chains that differ from their first blocks on, of different lengths, with a forced action
and a deposit each, commit to the same roots and have the same entries. -/
theorem inbox_binding_sample :
    ∃ ls₁ b₁ s₁ ls₂ b₂ s₂,
      Run (Connects exchangeNetwork) exchangeStart (ls₁ ++ [b₁]) s₁ ∧
      Run (Connects exchangeNetwork) exchangeStart (ls₂ ++ [b₂]) s₂ ∧
      ((ls₁ ++ [b₁]).length = 2 ∧ (ls₂ ++ [b₂]).length = 3 ∧
        (forcedHistory exchangeNetwork (ls₁ ++ [b₁])).length = 1 ∧
        (depositHistory exchangeNetwork (ls₁ ++ [b₁])).length = 1) ∧
      forcedHistory exchangeNetwork (ls₁ ++ [b₁]) =
        forcedHistory exchangeNetwork (ls₂ ++ [b₂]) ∧
      List.Forall₂ (SameDeposit exchangeNetwork.toExchangeCrypto)
        (depositHistory exchangeNetwork (ls₁ ++ [b₁]))
        (depositHistory exchangeNetwork (ls₂ ++ [b₂])) := by
  have hfacts : (extendAll exchangeNetwork exchangeStart
      (inboxBlocks 100)).bind (fun r =>
        (extendAll exchangeNetwork exchangeStart
          (inboxBlocks 99 ++ [([], 102)])).map fun r' => decide (SameRoots r.2 r'.2)) =
            some true := by decide +kernel
  simp only [Option.bind_eq_some_iff, Option.map_eq_some_iff, decide_eq_true_eq] at hfacts
  obtain ⟨⟨s₁, bs₁⟩, hbs₁, ⟨s₂, bs₂⟩, hbs₂, hlengths, hfit₁, hfit₂, hforced, hdeposits,
    hroot, hroot'⟩ := hfacts
  obtain ⟨ls₁, b₁, rfl⟩ : ∃ ls b, bs₁ = ls ++ [b] := by
    refine (List.eq_nil_or_concat' bs₁).resolve_left ?_
    rintro rfl
    cases hlengths.1
  obtain ⟨ls₂, b₂, rfl⟩ : ∃ ls b, bs₂ = ls ++ [b] := by
    refine (List.eq_nil_or_concat' bs₂).resolve_left ?_
    rintro rfl
    cases hlengths.2.1
  have h₁ := run_extendAll hbs₁
  have h₂ := run_extendAll hbs₂
  obtain ⟨hf, hd⟩ := inbox_binding (by decide) (by decide) (by decide) h₁ h₂ hfit₁ hfit₂ hforced
    hdeposits
  exact ⟨ls₁, b₁, s₁, ls₂, b₂, s₂, h₁, h₂, hlengths, hf (by simpa using hroot),
    hd (by simpa using hroot')⟩

end ElementsDrivechain.Ecx
