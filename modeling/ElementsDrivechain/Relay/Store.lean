import ElementsDrivechain.Foundations.JsonText
import ElementsDrivechain.Foundations.Trace
import ElementsDrivechain.Preconf.Operator

/-!
# The journal of a relay

A relay collects the promises of preconfers for a fixed list of bonds, its *profile*, and writes
them to a journal, one line of text for each.  For each bond it keeps at most two promises, and
two promises are a conflict.  When it is started again it reads the journal, and accepts each line
only if it would have written that line itself.

* `Event.decode_encode` : **a record is read back.**
* `relay_journal_invariant` : **the journal over whole histories**, and that it is read back.
-/

namespace ElementsDrivechain.Relay

open Fallible Preconf

/-- The bonds of a profile. -/
def MAX_SESSIONS : ℕ := 128
/-- The length of a line. -/
def MAX_FRAME : ℕ := 4096
/-- The length of the file. -/
def MAX_JOURNAL : ℕ := 1024 * 1024

/-! ### Texts -/

/-- The text of an id, last byte first. -/
def displayId (id : Uint256) : Bytes := writeHex id.data.reverse

/-- Read an id in the one form in which it is written. -/
def readId (text : Bytes) : Option Uint256 := do
  let b ← readHex text
  if b.length = 32 ∧ displayId (.ofBytes b.reverse) = text then some (.ofBytes b.reverse) else none

/-- The text of an outpoint. -/
def displayOutPoint (o : OutPoint) : Bytes :=
  displayId o.txid ++ (58 :: writeDecimal o.vout.toNat)

/-- Read a reference in the one form in which it is written. -/
def readOutPoint (text : Bytes) : Option OutPoint := do
  let txid ← readId (text.take 64)
  let vout ← readDecimal (text.drop 65)
  if vout < 2 ^ 32 ∧ displayOutPoint ⟨txid, UInt32.ofNat vout⟩ = text then
    some ⟨txid, UInt32.ofNat vout⟩
  else none

/-- Read a signature in the one form in which it is written. -/
def readSignature (text : Bytes) : Option Signature := do
  let b ← readHex text
  if h : b.length = 64 then if writeHex b = text then some ⟨b, h⟩ else none else none

theorem readId_displayId (id : Uint256) : readId (displayId id) = some id := by
  have hlength : id.data.reverse.length = 32 := by simp [id.size_data]
  simp [readId, displayId, readHex_writeHex, id.size_data, Uint256.ofBytes_data]

@[simp] theorem length_displayId (id : Uint256) : (displayId id).length = 64 := by
  simp [displayId, id.size_data]

theorem readOutPoint_displayOutPoint (o : OutPoint) :
    readOutPoint (displayOutPoint o) = some o := by
  have htake : (displayOutPoint o).take 64 = displayId o.txid :=
    List.take_left' (length_displayId _)
  have hdrop : (displayOutPoint o).drop 65 = writeDecimal o.vout.toNat := by
    rw [displayOutPoint, List.drop_append, length_displayId, List.drop_of_length_le (by simp)]
    rfl
  rw [readOutPoint, htake, hdrop, readId_displayId, readDecimal_writeDecimal]
  simp [o.vout.toNat_lt]

theorem readSignature_writeHex (s : Signature) : readSignature (writeHex s.data) = some s := by
  simp [readSignature, readHex_writeHex, s.size_data]

/-! ### Profiles -/

/-- A bond that promises are collected for. -/
structure Session where
  bond : OutPoint
  config : Config

/-- The bonds that promises are collected for. -/
structure Profile where
  version : ℕ
  sessions : List Session

/-- A profile that was checked. -/
structure ValidatedProfile where
  id : Bytes
  bonds : List (OutPoint × Bond)

/-- The text of the parameters of a bond. -/
def configTokens (c : Config) : List Token :=
  .lbrace :: fieldTokens "genesis" [.str (displayId c.genesis)] ++
    .comma :: fieldTokens "fee_asset" [.str (displayId c.feeAsset)] ++
    .comma :: fieldTokens "preconfer" [.str (writeHex c.preconfer.data)] ++
    .comma :: fieldTokens "protected_output" [.str (displayOutPoint c.protectedOutput)] ++
    .comma :: fieldTokens "epoch" [.str (writeDecimal c.epoch.toNat)] ++
    .comma :: fieldTokens "collateral" [.num c.collateral.toNat] ++
    .comma :: fieldTokens "active_until" [.num c.activeUntil.toNat] ++
    .comma :: fieldTokens "refund_height" [.num c.refundHeight.toNat] ++ [.rbrace]

/-- The text of a session. -/
def sessionTokens (s : Session) : List Token :=
  .lbrace :: fieldTokens "bond" [.str (displayOutPoint s.bond)] ++
    .comma :: fieldTokens "config" (configTokens s.config) ++ [.rbrace]

/-- The text of a profile. -/
def Profile.encode (p : Profile) : Bytes :=
  writeTokens (.lbrace :: fieldTokens "version" [.num p.version] ++
    .comma :: fieldTokens "sessions"
      (.lbracket :: ((p.sessions.map sessionTokens).intersperse [.comma]).flatten ++
        [.rbracket]) ++ [.rbrace])

section Validate

variable (K : PreconfCrypto)

/-- Take up a session, with the bonds and the protected outputs so far. -/
def addSession (first : Config) (seen : List (OutPoint × Bond) × List OutPoint)
    (session : Session) : Except String (List (OutPoint × Bond) × List OutPoint) := do
  rejectIf (session.bond.IsNull ∨ session.bond = session.config.protectedOutput ∨
      session.config.genesis ≠ first.genesis ∨ session.config.feeAsset ≠ first.feeAsset ∨
      session.bond ∈ seen.1.map (·.1) ∨ session.config.protectedOutput ∈ seen.2)
    "profile requires unique bonds/subjects on one chain and fee asset"
  let bond ← session.config.compile K
  return (seen.1 ++ [(session.bond, bond)], session.config.protectedOutput :: seen.2)

/-- Checks a profile. -/
def Profile.validate (p : Profile) : Except String ValidatedProfile := do
  rejectIf (p.version ≠ 1 ∨ p.sessions = [] ∨ MAX_SESSIONS < p.sessions.length)
    "invalid profile version or session count"
  let sorted : Profile :=
    { p with sessions := p.sessions.mergeSort fun a b => OutPoint.le a.bond b.bond }
  let first ← orReject sorted.sessions.head? "invalid profile version or session count"
  let seen ← sorted.sessions.foldlM (addSession K first.config) ([], [])
  return { id := writeHex (K.sha256 sorted.encode).data, bonds := seen.1 }

/-- Checks a promise for a bond of the profile. -/
def ValidatedProfile.verify (v : ValidatedProfile) (receipt : Receipt) : Except String Unit := do
  let bond ← orReject ((v.bonds.find? fun entry => entry.1 = receipt.bond).map (·.2))
    "unknown bond/session"
  bond.verify K receipt

end Validate

/-! ### Records -/

/-- A record of the journal. -/
structure Event where
  seq : ℕ
  receipt : Receipt
  /-- The first promise of the bond, when this is the second. -/
  conflictWith : Option Receipt
deriving DecidableEq

/-- The first line of the journal. -/
structure Header where
  version : ℕ
  profile : Bytes
  stream : Bytes
deriving DecidableEq

/-- The text of a promise. -/
def receiptTokens (r : Receipt) : List Token :=
  .lbrace :: fieldTokens "bond" [.str (displayOutPoint r.bond)] ++
    .comma :: fieldTokens "txid" [.str (displayId r.txid)] ++
    .comma :: fieldTokens "signature" [.str (writeHex r.signature.data)] ++ [.rbrace]

/-- The text of the promise that a record is in conflict with. -/
def conflictTokens : Option Receipt → List Token
  | none => [.null]
  | some r => receiptTokens r

/-- The text of a record. -/
def Event.tokens (e : Event) : List Token :=
  .lbrace :: fieldTokens "seq" [.num e.seq] ++
    .comma :: fieldTokens "receipt" (receiptTokens e.receipt) ++
    .comma :: fieldTokens "conflict_with" (conflictTokens e.conflictWith) ++ [.rbrace]

/-- The text of the first line. -/
def Header.tokens (h : Header) : List Token :=
  .lbrace :: fieldTokens "version" [.num h.version] ++
    .comma :: fieldTokens "profile" [.str h.profile] ++
    .comma :: fieldTokens "stream" [.str h.stream] ++ [.rbrace]

/-- The line of a record. -/
def Event.encode (e : Event) : Bytes := writeTokens e.tokens
/-- The first line. -/
def Header.encode (h : Header) : Bytes := writeTokens h.tokens

/-- Reads a promise. -/
def receiptOfJson (j : Json) : Option Receipt := do
  let fields ← Json.record [ascii "bond", ascii "txid", ascii "signature"] j
  let bond ← readOutPoint (← (← Json.field fields (ascii "bond")).text)
  let txid ← readId (← (← Json.field fields (ascii "txid")).text)
  let signature ← readSignature (← (← Json.field fields (ascii "signature")).text)
  return { bond := bond, txid := txid, signature := signature }

/-- A promise that may be missing, or be `null`. -/
def conflictOfJson : Option Json → Option (Option Receipt)
  | none => some none
  | some .null => some none
  | some j => (receiptOfJson j).map some

/-- Reads a record. -/
def Event.decode (line : Bytes) : Option Event := do
  let fields ← Json.record [ascii "seq", ascii "receipt", ascii "conflict_with"] (← parseJson line)
  let seq ← (← Json.field fields (ascii "seq")).u64
  let receipt ← receiptOfJson (← Json.field fields (ascii "receipt"))
  let conflictWith ← conflictOfJson (Json.field fields (ascii "conflict_with"))
  return { seq := seq, receipt := receipt, conflictWith := conflictWith }

/-- Reads the first line. -/
def Header.decode (line : Bytes) : Option Header := do
  let fields ← Json.record [ascii "version", ascii "profile", ascii "stream"] (← parseJson line)
  let version ← (← Json.field fields (ascii "version")).u64
  let profile ← (← Json.field fields (ascii "profile")).text
  let stream ← (← Json.field fields (ascii "stream")).text
  if version < 2 ^ 32 then some { version := version, profile := profile, stream := stream }
  else none

/-! ### Records are read back -/

theorem isPlain_displayId (id : Uint256) : ∀ c ∈ displayId id, IsPlain c := isPlain_writeHex _

theorem isPlain_displayOutPoint (o : OutPoint) : ∀ c ∈ displayOutPoint o, IsPlain c := by
  intro c hc
  obtain hc | hc := List.mem_append.1 hc
  · exact isPlain_displayId _ c hc
  · obtain rfl | hc := List.mem_cons.1 hc
    · decide
    · exact isPlain_writeDecimal _ c hc

theorem isPlain_of_all {keys : List Bytes} (h : ∀ key ∈ keys, key.all fun c => IsPlain c) :
    ∀ key ∈ keys, ∀ c ∈ key, IsPlain c :=
  fun key hkey c hc => of_decide_eq_true (List.all_eq_true.1 (h key hkey) c hc)

theorem plain_receiptTokens (r : Receipt) : ∀ token ∈ receiptTokens r, token.Plain := by
  have hkeys : ∀ key ∈ [ascii "bond", ascii "txid", ascii "signature"], ∀ c ∈ key, IsPlain c :=
    isPlain_of_all (by decide)
  simp only [List.forall_mem_cons] at hkeys
  simp only [receiptTokens, fieldTokens, List.cons_append, List.nil_append, List.forall_mem_cons]
  exact ⟨trivial, hkeys.1, trivial, isPlain_displayOutPoint _, trivial, hkeys.2.1, trivial,
    isPlain_displayId _, trivial, hkeys.2.2.1, trivial, isPlain_writeHex _, trivial, nofun⟩

theorem plain_conflictTokens (c : Option Receipt) : ∀ token ∈ conflictTokens c, token.Plain := by
  cases c with
  | none =>
    rintro _ (_ | ⟨_, ⟨⟩⟩)
    trivial
  | some r => exact plain_receiptTokens r

theorem Event.plain_tokens (e : Event) : ∀ token ∈ e.tokens, token.Plain := by
  have hkeys : ∀ key ∈ [ascii "seq", ascii "receipt", ascii "conflict_with"],
      ∀ c ∈ key, IsPlain c := isPlain_of_all (by decide)
  simp only [List.forall_mem_cons] at hkeys
  have hreceipt := plain_receiptTokens e.receipt
  have hconflict := plain_conflictTokens e.conflictWith
  simp only [Event.tokens, fieldTokens, List.cons_append, List.nil_append, List.append_assoc,
    List.forall_mem_cons, List.forall_mem_append]
  exact ⟨trivial, hkeys.1, trivial, trivial, trivial, hkeys.2.1, trivial, hreceipt, trivial,
    hkeys.2.2.1, trivial, hconflict, trivial, nofun⟩

theorem Header.plain_tokens {h : Header} (hprofile : ∀ c ∈ h.profile, IsPlain c)
    (hstream : ∀ c ∈ h.stream, IsPlain c) : ∀ token ∈ h.tokens, token.Plain := by
  have hkeys : ∀ key ∈ [ascii "version", ascii "profile", ascii "stream"],
      ∀ c ∈ key, IsPlain c := isPlain_of_all (by decide)
  simp only [List.forall_mem_cons] at hkeys
  simp only [Header.tokens, fieldTokens, List.cons_append, List.nil_append, List.forall_mem_cons]
  exact ⟨trivial, hkeys.1, trivial, trivial, trivial, hkeys.2.1, trivial, hprofile, trivial,
    hkeys.2.2.1, trivial, hstream, trivial, nofun⟩

/-- The value of a promise. -/
def receiptJson (r : Receipt) : Json :=
  .obj [(ascii "bond", .str (displayOutPoint r.bond)), (ascii "txid", .str (displayId r.txid)),
    (ascii "signature", .str (writeHex r.signature.data))]

/-- The value of such a promise. -/
def conflictJson : Option Receipt → Json
  | none => .null
  | some r => receiptJson r

theorem receiptOfJson_receiptJson (r : Receipt) : receiptOfJson (receiptJson r) = some r := by
  have hrecord : Json.record [ascii "bond", ascii "txid", ascii "signature"] (receiptJson r) =
      some [(ascii "bond", .str (displayOutPoint r.bond)), (ascii "txid", .str (displayId r.txid)),
        (ascii "signature", .str (writeHex r.signature.data))] :=
    Json.record_of_keys rfl (by decide)
  rw [receiptOfJson, hrecord]
  change (do
    let bond ← readOutPoint (displayOutPoint r.bond)
    let txid ← readId (displayId r.txid)
    let signature ← readSignature (writeHex r.signature.data)
    return ({ bond := bond, txid := txid, signature := signature } : Receipt)) = some r
  rw [readOutPoint_displayOutPoint, readId_displayId, readSignature_writeHex]
  rfl

theorem conflictOfJson_conflictJson (c : Option Receipt) :
    conflictOfJson (some (conflictJson c)) = some c := by
  cases c with
  | none => rfl
  | some r =>
    change (receiptOfJson (receiptJson r)).map some = _
    rw [receiptOfJson_receiptJson]
    rfl

theorem Event.parseJson_encode (e : Event) : parseJson e.encode =
    some (.obj [(ascii "seq", .num e.seq), (ascii "receipt", receiptJson e.receipt),
      (ascii "conflict_with", conflictJson e.conflictWith)]) := by
  have hseparated : Separated e.tokens := by
    cases hc : e.conflictWith <;>
      simp [Event.tokens, fieldTokens, receiptTokens, conflictTokens, hc, Separated, Token.IsNum]
  rw [parseJson, Event.encode, lex_write e.plain_tokens hseparated]
  cases hc : e.conflictWith <;>
    simp only [Event.tokens, fieldTokens, receiptTokens, conflictTokens, hc] <;> rfl

/-- **A record is read back.** -/
theorem Event.decode_encode {e : Event} (h : e.seq < 2 ^ 64) :
    Event.decode e.encode = some e := by
  have hrecord : Json.record [ascii "seq", ascii "receipt", ascii "conflict_with"]
      (.obj [(ascii "seq", .num e.seq), (ascii "receipt", receiptJson e.receipt),
        (ascii "conflict_with", conflictJson e.conflictWith)]) =
      some [(ascii "seq", .num e.seq), (ascii "receipt", receiptJson e.receipt),
        (ascii "conflict_with", conflictJson e.conflictWith)] :=
    Json.record_of_keys rfl (by decide)
  rw [Event.decode, e.parseJson_encode, Option.bind_eq_bind, Option.bind_some, hrecord]
  change (do
    let seq ← Json.u64 (.num e.seq)
    let receipt ← receiptOfJson (receiptJson e.receipt)
    let conflictWith ← conflictOfJson (some (conflictJson e.conflictWith))
    return ({ seq := seq, receipt := receipt, conflictWith := conflictWith } : Event)) = some e
  rw [receiptOfJson_receiptJson, conflictOfJson_conflictJson, Json.u64, if_pos h]
  rfl

theorem Header.decode_encode {h : Header} (hversion : h.version = 1)
    (hprofile : ∀ c ∈ h.profile, IsPlain c) (hstream : ∀ c ∈ h.stream, IsPlain c) :
    Header.decode h.encode = some h := by
  have hseparated : Separated h.tokens := by
    simp [Header.tokens, fieldTokens, Separated, Token.IsNum]
  have hparse : parseJson h.encode = some (.obj [(ascii "version", .num h.version),
      (ascii "profile", .str h.profile), (ascii "stream", .str h.stream)]) := by
    rw [parseJson, Header.encode, lex_write (Header.plain_tokens hprofile hstream) hseparated]
    rfl
  have hrecord : Json.record [ascii "version", ascii "profile", ascii "stream"]
      (.obj [(ascii "version", .num h.version), (ascii "profile", .str h.profile),
        (ascii "stream", .str h.stream)]) =
      some [(ascii "version", .num h.version), (ascii "profile", .str h.profile),
        (ascii "stream", .str h.stream)] :=
    Json.record_of_keys rfl (by decide)
  rw [Header.decode, hparse, Option.bind_eq_bind, Option.bind_some, hrecord]
  change (do
    let version ← Json.u64 (.num h.version)
    if version < 2 ^ 32 then
      some ({ version := version, profile := h.profile, stream := h.stream } : Header)
    else none) = some h
  rw [Json.u64, hversion, if_pos (by decide)]
  cases h
  simp_all

/-! ### The journal -/

/-- How a publication ended. -/
inductive PublishStatus where
  | duplicate
  | alreadyConflicted
  | stored
deriving DecidableEq

/-- The journal of a relay. -/
structure Store where
  profile : ValidatedProfile
  stream : Bytes
  events : List Event
  /-- The bytes of the file. -/
  journal : Bytes
  failed : Bool

/-- Append a line, when it is not too long. -/
def append (journal line : Bytes) : Except String Bytes := do
  rejectIf (MAX_FRAME < line.length) "oversized journal record"
  return journal ++ (line ++ [10])

section Store

variable (K : PreconfCrypto)

namespace Store

/-- The number of the last record. -/
def head (s : Store) : ℕ := s.events.length

/-- The records of a bond. -/
def previous (s : Store) (bond : OutPoint) : List Event :=
  s.events.filter fun e => e.receipt.bond = bond

/-- What publishing a promise would record. -/
def prepare (s : Store) (receipt : Receipt) :
    Except String (Option Event × PublishStatus × ℕ) := do
  rejectIf (s.failed = true) "journal unavailable"
  s.profile.verify K receipt
  match (s.previous receipt.bond).find? fun e => e.receipt.txid = receipt.txid with
  | some duplicate => return (none, .duplicate, duplicate.seq)
  | none =>
    if (s.previous receipt.bond).length = 2 then
      return (none, .alreadyConflicted, ((s.previous receipt.bond)[1]?.map (·.seq)).getD 0)
    else
      return (some { seq := s.head + 1, receipt := receipt,
                     conflictWith := (s.previous receipt.bond).head?.map (·.receipt) },
        .stored, s.head + 1)

/-- Publish a promise: the store afterwards, and the answer. -/
def publish (s : Store) (receipt : Receipt) :
    Store × Except String (Option Event × PublishStatus × ℕ) :=
  match s.prepare K receipt with
  | .error e => (s, .error e)
  | .ok (none, status) => (s, .ok (none, status))
  | .ok (some event, status) =>
    match append s.journal event.encode with
    | .error e => ({ s with failed := true }, .error e)
    | .ok journal =>
      ({ s with journal := journal, events := s.events ++ [event] }, .ok (some event, status))

/-- Take up a record of the journal. -/
def addRecord (s : Store) (record : Event) : Except String Store := do
  let (expected, _) ← s.prepare K record.receipt
  rejectIf (expected ≠ some record) "noncanonical or duplicate journal event"
  return { s with events := s.events ++ [record] }

end Store

/-- Read a line of the journal after the first. -/
def readRecord (line : Bytes) : Except String Event := do
  rejectIf (line = []) "empty journal record"
  rejectIf (MAX_FRAME < line.length) "oversized journal record"
  orReject (Event.decode line) "bad journal event"

/-- The header and the records of a file, which is started if it is empty. -/
def readJournal (v : ValidatedProfile) (random : Uint256) (bytes : Bytes) :
    Except String (Header × List Event × Bytes) :=
  if bytes = [] then do
    let header : Header := { version := 1, profile := v.id, stream := writeHex random.data }
    let journal ← append [] header.encode
    return (header, [], journal)
  else do
    rejectIf (bytes.getLast? ≠ some 10)
      "torn journal: preserve it and restore from verified evidence"
    match bytes.dropLast.splitOn 10 with
    | [] => throw "missing journal header"
    | first :: lines =>
      let header ← orReject (Header.decode first) "bad journal header"
      let records ← lines.mapM readRecord
      return (header, records, bytes)

/-- **Open a journal**, with a random id for a new one. -/
def Store.open (v : ValidatedProfile) (random : Uint256) (bytes : Bytes) :
    Except String Store := do
  rejectIf (MAX_JOURNAL < bytes.length) "oversized journal"
  let (header, records, journal) ← readJournal v random bytes
  rejectIf (header.version ≠ 1 ∨ header.profile ≠ v.id ∨ header.stream.length ≠ 64 ∨
      readHex header.stream = none) "journal/profile mismatch"
  records.foldlM (Store.addRecord K)
    { profile := v, stream := header.stream, events := [], journal := journal, failed := false }

end Store

section Recorded

variable {K : PreconfCrypto} {v : ValidatedProfile} {s : Store} {events : List Event}
  {r : Receipt} {e : Event} {status : PublishStatus × ℕ}

/-- A store with the given records. -/
def Store.base (v : ValidatedProfile) (events : List Event) : Store where
  profile := v
  stream := []
  events := events
  journal := []
  failed := false

theorem Store.prepare_eq_base (hfailed : s.failed = false) :
    s.prepare K r = (Store.base s.profile s.events).prepare K r := by
  simp only [Store.prepare, Store.base, hfailed]
  rfl

/-- There is nothing to record about a promise any more. -/
def Covered (events : List Event) (r : Receipt) : Prop :=
  (∃ e ∈ events, e.receipt.bond = r.bond ∧ e.receipt.txid = r.txid) ∨
    (events.filter fun e => e.receipt.bond = r.bond).length = 2

/-- **What publishing a promise does.** -/
theorem Store.prepare_base_eq_ok {found : Option Event} :
    (Store.base v events).prepare K r = .ok (found, status) →
      v.verify K r = .ok () ∧
        ((found = none ∧ Covered events r) ∨
          (∀ d ∈ events, d.receipt.bond = r.bond → d.receipt.txid ≠ r.txid) ∧
          (events.filter fun e => e.receipt.bond = r.bond).length ≠ 2 ∧
          found = some ⟨events.length + 1, r,
            (events.filter fun e => e.receipt.bond = r.bond).head?.map (·.receipt)⟩) := by
  intro h
  simp only [Store.prepare, bind_eq_ok, rejectIf_eq_ok, exists_const] at h
  obtain ⟨-, _, hverify, h⟩ := h
  refine ⟨hverify, ?_⟩
  split at h
  · case h_1 duplicate hfind =>
    simp only [pure_eq_ok, Prod.mk.injEq] at h
    have hmem := List.mem_of_find?_eq_some hfind
    have htxid := List.find?_some hfind
    simp only [Store.previous, Store.base, List.mem_filter, decide_eq_true_eq] at hmem htxid
    exact .inl ⟨h.1.symm, .inl ⟨duplicate, hmem.1, hmem.2, htxid⟩⟩
  · case h_2 hfind =>
    split_ifs at h with hlength
    · simp only [pure_eq_ok, Prod.mk.injEq] at h
      exact .inl ⟨h.1.symm, .inr hlength⟩
    · simp only [pure_eq_ok, Prod.mk.injEq] at h
      refine .inr ⟨fun d hd hbond htxid => ?_, hlength, h.1.symm⟩
      have hnone := List.find?_eq_none.1 hfind d
        (List.mem_filter.2 ⟨hd, by simpa using hbond⟩)
      exact hnone (by simpa using htxid)

theorem Store.prepare_base (hverify : v.verify K r = .ok ()) :
    (Store.base v events).prepare K r =
      match ((Store.base v events).previous r.bond).find? fun e => e.receipt.txid = r.txid with
      | some duplicate => .ok (none, .duplicate, duplicate.seq)
      | none =>
        if ((Store.base v events).previous r.bond).length = 2 then
          .ok (none, .alreadyConflicted,
            (((Store.base v events).previous r.bond)[1]?.map (·.seq)).getD 0)
        else
          .ok (some ⟨(Store.base v events).head + 1, r,
            ((Store.base v events).previous r.bond).head?.map (·.receipt)⟩, .stored,
              (Store.base v events).head + 1) := by
  simp only [Store.prepare]
  rw [rejectIf_of_not (by simp [Store.base]), show (Store.base v events).profile = v from rfl,
    hverify]
  rfl

theorem Store.prepare_of_covered (hverify : v.verify K r = .ok ()) (h : Covered events r) :
    ∃ status, (Store.base v events).prepare K r = .ok (none, status) := by
  rw [Store.prepare_base hverify]
  cases hfind : ((Store.base v events).previous r.bond).find? fun e => e.receipt.txid = r.txid with
  | some duplicate => exact ⟨_, rfl⟩
  | none =>
    obtain ⟨d, hd, hbond, htxid⟩ | hlength := h
    · have hnone := List.find?_eq_none.1 hfind d
        (List.mem_filter.2 ⟨hd, by simpa using hbond⟩)
      exact absurd (by simpa using htxid) hnone
    · exact ⟨_, if_pos hlength⟩

theorem Store.prepare_base_ne_error (hverify : v.verify K r = .ok ()) (error : String) :
    (Store.base v events).prepare K r ≠ .error error := by
  rw [Store.prepare_base hverify]
  split
  · exact nofun
  · split_ifs <;> exact nofun

/-- The records of one bond: none, a first promise, or two promises that conflict. -/
inductive BondEvents : List Event → Prop
  | none : BondEvents []
  | one {first : Event} (h : first.conflictWith = none) : BondEvents [first]
  | two {first second : Event} (h : first.conflictWith = none)
      (hconflict : second.conflictWith = some first.receipt)
      (hne : first.receipt.txid ≠ second.receipt.txid) : BondEvents [first, second]

/-- The records of a journal. -/
structure Recorded (K : PreconfCrypto) (v : ValidatedProfile) (events : List Event) : Prop where
  /-- They are numbered. -/
  seq : ∀ i e, events[i]? = some e → e.seq = i + 1
  /-- They were verified. -/
  verified : ∀ e ∈ events, v.verify K e.receipt = .ok ()
  /-- A bond has at most two, in conflict. -/
  bonds : ∀ bond, BondEvents (events.filter fun e => e.receipt.bond = bond)

theorem Recorded.nil : Recorded K v [] := ⟨by simp, by simp, fun _ => .none⟩

/-- **One more record keeps the journal in order.** -/
theorem Recorded.snoc (h : Recorded K v events)
    (hprepare : (Store.base v events).prepare K r = .ok (some e, status)) :
    Recorded K v (events ++ [e]) ∧ e.receipt = r ∧ e.seq = events.length + 1 := by
  obtain ⟨hverify, ⟨hnone, -⟩ | ⟨hnew, hlength, heq⟩⟩ := Store.prepare_base_eq_ok hprepare
  · cases hnone
  obtain rfl := Option.some.inj heq
  refine ⟨⟨?_, ?_, ?_⟩, rfl, rfl⟩
  · intro i d hd
    obtain hlt | rfl | hgt := lt_trichotomy i events.length
    · rw [List.getElem?_append_left hlt] at hd
      exact h.seq i d hd
    · simp only [List.getElem?_concat_length, Option.some.injEq] at hd
      rw [← hd]
    · rw [List.getElem?_eq_none (by simp; omega)] at hd
      cases hd
  · rw [List.forall_mem_append]
    exact ⟨h.verified, List.forall_mem_singleton.2 hverify⟩
  · intro bond
    rw [List.filter_append]
    by_cases hbond : r.bond = bond
    · subst hbond
      have hfilter := h.bonds r.bond
      generalize hl : (events.filter fun e => e.receipt.bond = r.bond) = l at hfilter hlength ⊢
      cases hfilter with
      | none => simpa using BondEvents.one rfl
      | @one first hfirst =>
        have hmem : first ∈ events.filter fun e => e.receipt.bond = r.bond := by simp [hl]
        simp only [List.mem_filter, decide_eq_true_eq] at hmem
        simpa using BondEvents.two hfirst rfl (hnew first hmem.1 hmem.2)
      | two => exact absurd rfl hlength
    · simpa [hbond] using h.bonds bond

theorem Recorded.length_filter_le (h : Recorded K v events) (bond : OutPoint) :
    (events.filter fun e => e.receipt.bond = bond).length ≤ 2 := by
  have hbonds := h.bonds bond
  generalize (events.filter fun e => e.receipt.bond = bond) = l at hbonds ⊢
  cases hbonds <;> simp

/-- **A journal has at most two records for each bond of the profile.** -/
theorem Recorded.length_le (h : Recorded K v events) : events.length ≤ 2 * v.bonds.length := by
  have hmem : ∀ e ∈ events, e.receipt.bond ∈ v.bonds.map (·.1) := by
    intro e he
    have hverify := h.verified e he
    simp only [ValidatedProfile.verify, bind_eq_ok, orReject_eq_ok,
      Option.map_eq_some_iff] at hverify
    obtain ⟨_, ⟨entry, hfind, -⟩, -⟩ := hverify
    have hbond := List.find?_some hfind
    simp only [decide_eq_true_eq] at hbond
    exact hbond ▸ List.mem_map_of_mem (List.mem_of_find?_eq_some hfind)
  simpa using Lists.length_le_of_filter_le (fun e : Event => e.receipt.bond) _ events hmem
    h.length_filter_le

end Recorded

/-! ### The text of the journal -/

/-- The text of some lines. -/
def fileOf (lines : List Bytes) : Bytes := lines.flatMap (· ++ [10])

theorem dropLast_fileOf {lines : List Bytes} (h : lines ≠ []) :
    (fileOf lines).dropLast = [10].intercalate lines ∧ (fileOf lines).getLast? = some 10 := by
  obtain ⟨before, last, rfl⟩ := List.eq_nil_or_concat' lines |>.resolve_left h
  have hsplit : fileOf (before ++ [last]) = (fileOf before ++ last) ++ [10] := by
    simp [fileOf]
  have hjoin : ∀ before : List Bytes,
      [10].intercalate (before ++ [last]) = fileOf before ++ last := by
    intro before
    induction before with
    | nil => simp [fileOf]
    | cons line before ih =>
      rw [List.cons_append, List.intercalate_cons_of_ne_nil (by simp), ih]
      simp [fileOf]
  rw [hsplit, List.dropLast_concat, List.getLast?_concat, hjoin]
  exact ⟨rfl, rfl⟩

theorem newline_notMem_writeTokens {tokens : List Token}
    (h : ∀ token ∈ tokens, token.Plain) : (10 : UInt8) ∉ writeTokens tokens := by
  intro hmem
  obtain ⟨token, htoken, hmem⟩ := List.mem_flatMap.1 hmem
  have hplain := h token htoken
  cases token with
  | num n => exact absurd (isDigit_writeDecimal n 10 hmem) (by decide)
  | str s =>
    simp only [Token.write, List.mem_cons, List.mem_append, List.not_mem_nil, or_false] at hmem
    obtain hquote | hs | hquote := hmem
    · exact absurd hquote (by decide)
    · exact absurd (hplain 10 hs) (by decide)
    · exact absurd hquote (by decide)
  | _ => exact absurd hmem (by decide)

theorem length_displayOutPoint_le (o : OutPoint) : (displayOutPoint o).length ≤ 75 := by
  have hvout := length_writeDecimal_le (k := 10) (by decide)
    (o.vout.toNat_lt.trans (by decide : 2 ^ 32 < 10 ^ 10))
  simp only [displayOutPoint, List.length_append, length_displayId, List.length_cons]
  omega

theorem length_receiptTokens_le (r : Receipt) : (writeTokens (receiptTokens r)).length ≤ 320 := by
  have hbond := length_displayOutPoint_le r.bond
  have hkeys : (ascii "bond").length = 4 ∧ (ascii "txid").length = 4 ∧
      (ascii "signature").length = 9 := by decide
  simp only [writeTokens, receiptTokens, fieldTokens, List.cons_append, List.nil_append,
    List.flatMap_cons, List.flatMap_nil, Token.write, List.length_append, List.length_cons,
    List.length_nil, length_displayId, length_writeHex, r.signature.size_data]
  omega

theorem Event.length_encode_le {e : Event} (h : e.seq < 10 ^ 20) : e.encode.length ≤ 720 := by
  have hseq := length_writeDecimal_le (by decide) h
  have hreceipt := length_receiptTokens_le e.receipt
  have hconflict : (writeTokens (conflictTokens e.conflictWith)).length ≤ 320 := by
    cases e.conflictWith with
    | none => decide
    | some r => exact length_receiptTokens_le r
  have hkeys : (ascii "seq").length = 3 ∧ (ascii "receipt").length = 7 ∧
      (ascii "conflict_with").length = 13 := by decide
  simp only [writeTokens] at hreceipt hconflict
  simp only [Event.encode, Event.tokens, writeTokens, fieldTokens, List.cons_append,
    List.nil_append, List.append_assoc, List.flatMap_cons, List.flatMap_append, List.flatMap_nil,
    Token.write, List.length_append, List.length_cons, List.length_nil]
  omega

theorem Event.encode_ne_nil (e : Event) : e.encode ≠ [] := List.cons_ne_nil _ _

/-! ### Profiles that were checked -/

/-- What is known of a profile that was checked. -/
structure ValidatedProfile.Valid (v : ValidatedProfile) : Prop where
  id : ∃ hash : Uint256, v.id = writeHex hash.data
  length_le : v.bonds.length ≤ MAX_SESSIONS

theorem length_foldlM_addSession {K : PreconfCrypto} {first : Config} {sessions : List Session}
    {seen seen' : List (OutPoint × Bond) × List OutPoint}
    (h : sessions.foldlM (addSession K first) seen = .ok seen') :
    seen'.1.length = seen.1.length + sessions.length := by
  induction sessions generalizing seen with
  | nil =>
    obtain rfl : seen = seen' := Except.ok.inj h
    rfl
  | cons session sessions ih =>
    simp only [List.foldlM_cons, bind_eq_ok, addSession, rejectIf_eq_ok, exists_const,
      pure_eq_ok] at h
    obtain ⟨_, ⟨-, bond, -, rfl⟩, h⟩ := h
    rw [ih h]
    simp only [List.length_append, List.length_cons, List.length_nil]
    omega

theorem Profile.validate_valid {K : PreconfCrypto} {p : Profile} {v : ValidatedProfile}
    (h : p.validate K = .ok v) : v.Valid := by
  simp only [Profile.validate, bind_eq_ok, rejectIf_eq_ok, not_or, not_lt, exists_const,
    pure_eq_ok] at h
  obtain ⟨⟨-, -, hle⟩, first, -, seen, hfold, rfl⟩ := h
  have hlength := length_foldlM_addSession hfold
  refine ⟨⟨_, rfl⟩, ?_⟩
  simp only [List.length_nil, Nat.zero_add, List.length_mergeSort] at hlength
  exact hlength.trans_le hle

/-! ### Histories of the journal -/

section Histories

variable {K : PreconfCrypto} {v : ValidatedProfile} {s t : Store} {r : Receipt}

/-- The first record of the file. -/
def Store.header (s : Store) : Header where
  version := 1
  profile := s.profile.id
  stream := s.stream

/-- The records are accepted again, one after the other. -/
def Replays (K : PreconfCrypto) (v : ValidatedProfile) (events : List Event) : Prop :=
  ∀ stream journal, events.foldlM (Store.addRecord K) ⟨v, stream, [], journal, false⟩ =
    .ok ⟨v, stream, events, journal, false⟩

/-- A store that did not fail, with the file that belongs to its records. -/
structure Good (K : PreconfCrypto) (v : ValidatedProfile) (s : Store) : Prop where
  profile : s.profile = v
  failed : s.failed = false
  recorded : Recorded K v s.events
  /-- The records are accepted when they are read. -/
  replays : Replays K v s.events
  stream : ∃ id : Uint256, s.stream = writeHex id.data
  /-- The file has a line for each record. -/
  journal : s.journal = fileOf (s.header.encode :: s.events.map Event.encode)

theorem Good.prepare (h : Good K v s) : s.prepare K r = (Store.base v s.events).prepare K r := by
  rw [Store.prepare_eq_base h.failed, h.profile]

theorem Good.length_le (h : Good K v s) (hv : v.Valid) : s.events.length ≤ 256 := by
  have hrecords := h.recorded.length_le
  have hbonds : v.bonds.length ≤ 128 := hv.length_le
  omega

theorem Good.seq_le (h : Good K v s) (hv : v.Valid) : ∀ e ∈ s.events, e.seq ≤ 256 := by
  intro e he
  obtain ⟨i, hi⟩ := List.mem_iff_getElem?.1 he
  have hlt := (List.getElem?_eq_some_iff.1 hi).1
  have hle := h.length_le hv
  rw [h.recorded.seq i e hi]
  omega

theorem append_eq_ok {journal line : Bytes} (h : line.length ≤ MAX_FRAME) :
    append journal line = .ok (journal ++ (line ++ [10])) := by
  rw [append, rejectIf_of_not (not_lt.2 h)]
  rfl

/-- **What publishing does to a store**: nothing, or one more record. -/
theorem Good.publish (h : Good K v s) (hv : v.Valid) (r : Receipt) :
    (∃ answer, s.publish K r = (s, answer) ∧ (v.verify K r = .ok () → Covered s.events r)) ∨
      ∃ e status, (Store.base v s.events).prepare K r = .ok (some e, status) ∧
        s.publish K r = ({ s with
          journal := s.journal ++ (e.encode ++ [10]), events := s.events ++ [e] },
            .ok (some e, status)) := by
  cases hprepare : s.prepare K r with
  | error error =>
    refine .inl ⟨.error error, by rw [Store.publish, hprepare], fun hverify => ?_⟩
    rw [h.prepare] at hprepare
    exact absurd hprepare (Store.prepare_base_ne_error hverify error)
  | ok found =>
    obtain ⟨event, status⟩ := found
    have hbase := hprepare
    rw [h.prepare] at hbase
    cases event with
    | none =>
      refine .inl ⟨_, by rw [Store.publish, hprepare], fun _ => ?_⟩
      obtain ⟨-, ⟨-, hcovered⟩ | ⟨-, -, hsome⟩⟩ := Store.prepare_base_eq_ok hbase
      · exact hcovered
      · cases hsome
    | some e =>
      obtain ⟨-, -, hseq⟩ := h.recorded.snoc hbase
      have hlength := h.length_le hv
      have hframe : e.encode.length ≤ MAX_FRAME :=
        (Event.length_encode_le (by rw [hseq]; omega)).trans (by decide)
      refine .inr ⟨e, status, hbase, ?_⟩
      rw [Store.publish, hprepare]
      simp only [append_eq_ok hframe]

/-- **Publishing keeps the store good**, and covers the promise. -/
theorem Good.publish_good (h : Good K v s) (hv : v.Valid) (r : Receipt) :
    Good K v (s.publish K r).1 ∧ s.events <+: (s.publish K r).1.events ∧
      (s.publish K r).1.stream = s.stream ∧
      (v.verify K r = .ok () → Covered (s.publish K r).1.events r) := by
  obtain ⟨answer, hpublish, hcovered⟩ | ⟨e, status, hprepare, hpublish⟩ := h.publish hv r
  · rw [hpublish]
    exact ⟨h, List.prefix_refl _, rfl, hcovered⟩
  · obtain ⟨hrecorded, rfl, -⟩ := h.recorded.snoc hprepare
    rw [hpublish]
    refine ⟨⟨h.profile, h.failed, hrecorded, ?_, h.stream, ?_⟩, List.prefix_append _ _, rfl,
      fun _ => .inl ⟨e, by simp, rfl, rfl⟩⟩
    · intro stream journal
      rw [List.foldlM_append, h.replays stream journal]
      change (List.foldlM (Store.addRecord K) ⟨v, stream, s.events, journal, false⟩ [e]) = _
      have hadd : (⟨v, stream, s.events, journal, false⟩ : Store).prepare K e.receipt =
          .ok (some e, status) := by
        rw [Store.prepare_eq_base rfl]
        exact hprepare
      simp only [List.foldlM_cons, List.foldlM_nil, Store.addRecord, hadd]
      change (rejectIf (some e ≠ some e) _ >>= fun _ => _) >>= _ = _
      rw [rejectIf_of_not (not_not.2 rfl)]
      rfl
    · rw [h.journal]
      simp [fileOf, Store.header]

theorem isPlain_header (h : Good K v s) (hv : v.Valid) :
    (∀ c ∈ s.header.profile, IsPlain c) ∧ ∀ c ∈ s.header.stream, IsPlain c := by
  obtain ⟨hash, hid⟩ := hv.id
  obtain ⟨id, hstream⟩ := h.stream
  have hprofile : s.header.profile = writeHex hash.data := by rw [Store.header, h.profile, hid]
  have hstream' : s.header.stream = writeHex id.data := hstream
  rw [hprofile, hstream']
  exact ⟨isPlain_writeHex _, isPlain_writeHex _⟩

theorem length_header_le (h : Good K v s) (hv : v.Valid) : s.header.encode.length ≤ 200 := by
  obtain ⟨hash, hid⟩ := hv.id
  obtain ⟨id, hstream⟩ := h.stream
  have hkeys : (ascii "version").length = 7 ∧ (ascii "profile").length = 7 ∧
      (ascii "stream").length = 6 := by decide
  have hone : (writeDecimal 1).length = 1 := by decide
  simp only [Header.encode, Header.tokens, Store.header, writeTokens, fieldTokens,
    List.cons_append, List.nil_append, List.flatMap_cons, List.flatMap_nil, Token.write,
    List.length_append, List.length_cons, List.length_nil, h.profile, hid, hstream,
    length_writeHex, Uint256.size_data, hone]
  omega

theorem length_fileOf_le {n : ℕ} {lines : List Bytes} (h : ∀ line ∈ lines, line.length ≤ n) :
    (fileOf lines).length ≤ (n + 1) * lines.length := by
  induction lines with
  | nil => simp [fileOf]
  | cons line lines ih =>
    rw [List.forall_mem_cons] at h
    have hrest := ih h.2
    simp only [fileOf, List.flatMap_cons, List.length_append, List.length_cons,
      List.length_nil, Nat.mul_succ] at hrest ⊢
    omega

theorem Good.length_journal_le (h : Good K v s) (hv : v.Valid) :
    s.journal.length ≤ MAX_JOURNAL := by
  have hlines : ∀ line ∈ s.header.encode :: s.events.map Event.encode, line.length ≤ 720 := by
    rw [List.forall_mem_cons]
    refine ⟨(length_header_le h hv).trans (by decide), fun line hline => ?_⟩
    obtain ⟨e, he, rfl⟩ := List.mem_map.1 hline
    exact Event.length_encode_le ((h.seq_le hv e he).trans_lt (by decide))
  have hlength := length_fileOf_le hlines
  have hle := h.length_le hv
  rw [h.journal]
  simp only [List.length_cons, List.length_map] at hlength
  simp only [MAX_JOURNAL]
  omega

theorem Good.mapM_readRecord (h : Good K v s) (hv : v.Valid) :
    (s.events.map Event.encode).mapM readRecord = .ok s.events := by
  have hseq := h.seq_le hv
  generalize s.events = events at hseq
  induction events with
  | nil => rfl
  | cons e events ih =>
    rw [List.forall_mem_cons] at hseq
    have hread : readRecord e.encode = .ok e := by
      have hframe : e.encode.length ≤ MAX_FRAME :=
        (Event.length_encode_le (hseq.1.trans_lt (by decide))).trans (by decide)
      rw [readRecord, rejectIf_of_not e.encode_ne_nil]
      change (rejectIf _ _ >>= _) = _
      rw [rejectIf_of_not (not_lt.2 hframe),
        Event.decode_encode (hseq.1.trans_lt (by decide))]
      rfl
    rw [List.map_cons, List.mapM_cons, hread, ih hseq.2]
    rfl

/-- **A journal that the store wrote is opened again**, with the same id and the same records. -/
theorem Good.open (h : Good K v s) (hv : v.Valid) (random : Uint256) :
    Store.open K v random s.journal = .ok s := by
  obtain ⟨hprofile, hstream⟩ := isPlain_header h hv
  have hne : s.journal ≠ [] := by
    rw [h.journal]
    simp [fileOf]
  obtain ⟨hdrop, hlast⟩ := dropLast_fileOf
    (List.cons_ne_nil s.header.encode (s.events.map Event.encode))
  rw [← h.journal] at hdrop hlast
  have hlines : s.journal.dropLast.splitOn 10 =
      s.header.encode :: s.events.map Event.encode := by
    rw [hdrop]
    refine List.splitOn_intercalate 10 (fun line hline => ?_) (List.cons_ne_nil _ _)
    obtain rfl | hline := List.mem_cons.1 hline
    · exact newline_notMem_writeTokens (Header.plain_tokens hprofile hstream)
    · obtain ⟨e, -, rfl⟩ := List.mem_map.1 hline
      exact newline_notMem_writeTokens e.plain_tokens
  have hread : readJournal v random s.journal = .ok (s.header, s.events, s.journal) := by
    rw [readJournal, if_neg hne, rejectIf_of_not (not_not.2 hlast)]
    change (match s.journal.dropLast.splitOn 10 with
      | [] => _
      | first :: lines => _) = _
    rw [hlines]
    change (do
      let header ← orReject (Header.decode s.header.encode) "bad journal header"
      let records ← (s.events.map Event.encode).mapM readRecord
      return (header, records, s.journal)) = _
    rw [Header.decode_encode rfl hprofile hstream, h.mapM_readRecord hv]
    rfl
  obtain ⟨id, hid⟩ := h.stream
  have hmatch : ¬(s.header.version ≠ 1 ∨ s.header.profile ≠ v.id ∨ s.header.stream.length ≠ 64 ∨
      readHex s.header.stream = none) := by
    simp [Store.header, h.profile, hid, readHex_writeHex, id.size_data]
  rw [Store.open, rejectIf_of_not (not_lt.2 (h.length_journal_le hv))]
  change (readJournal v random s.journal >>= _) = _
  rw [hread]
  change (rejectIf _ _ >>= _) = _
  rw [rejectIf_of_not hmatch]
  refine (h.replays s.header.stream s.journal).trans ?_
  have hfailed := h.failed
  have hprofile' := h.profile
  cases s
  simp_all [Store.header]

/-- A new journal. -/
def Store.fresh (v : ValidatedProfile) (random : Uint256) : Store where
  profile := v
  stream := writeHex random.data
  events := []
  journal := Header.encode ⟨1, v.id, writeHex random.data⟩ ++ [10]
  failed := false

theorem Good.fresh (random : Uint256) : Good K v (.fresh v random) := by
  refine ⟨rfl, rfl, .nil, fun _ _ => rfl, ⟨random, rfl⟩, ?_⟩
  simp [Store.fresh, fileOf, Store.header]

/-- **An empty file is opened as a new journal.** -/
theorem open_nil (hv : v.Valid) (random : Uint256) :
    Store.open K v random [] = .ok (.fresh v random) := by
  have hgood : Good K v (.fresh v random) := .fresh random
  have hframe : (Header.encode ⟨1, v.id, writeHex random.data⟩).length ≤ MAX_FRAME :=
    (length_header_le hgood hv).trans (by decide)
  rw [Store.open, rejectIf_of_not (by decide)]
  change (readJournal v random [] >>= _) = _
  rw [readJournal, if_pos rfl]
  simp only [append_eq_ok hframe]
  change (rejectIf _ _ >>= _) = _
  rw [rejectIf_of_not (by simp [readHex_writeHex, random.size_data])]
  rfl

theorem Good.of_open_nil (hv : v.Valid) {random : Uint256}
    (h : Store.open K v random [] = .ok s) : Good K v s := by
  obtain rfl : Store.fresh v random = s := Except.ok.inj ((open_nil hv random).symm.trans h)
  exact .fresh random

/-- What happens to a journal: a promise is published, or the journal is opened again. -/
inductive JournalOp where
  | publish (r : Receipt)
  | reopen (random : Uint256)

/-- What an operation does, when it succeeds. -/
def JournalStep (K : PreconfCrypto) (v : ValidatedProfile) (s : Store) : JournalOp → Store → Prop
  | .publish r, t => t = (s.publish K r).1
  | .reopen random, t => Store.open K v random s.journal = .ok t

/-- A promise that does not verify, or about which there is nothing to record any more. -/
def Settled (K : PreconfCrypto) (v : ValidatedProfile) (s : Store) (r : Receipt) : Prop :=
  v.verify K r = .ok () → Covered s.events r

/-- A store that came out of another one: the same records, and maybe more. -/
structure Extends (K : PreconfCrypto) (v : ValidatedProfile) (s t : Store) : Prop where
  good : Good K v t
  events : s.events <+: t.events
  stream : t.stream = s.stream

theorem Extends.refl (h : Good K v s) : Extends K v s s := ⟨h, List.prefix_refl _, rfl⟩

theorem Extends.trans {u : Store} (h : Extends K v s t) (h' : Extends K v t u) :
    Extends K v s u :=
  ⟨h'.good, h.events.trans h'.events, h'.stream.trans h.stream⟩

theorem Good.step (h : Good K v s) (hv : v.Valid) {op : JournalOp}
    (hstep : JournalStep K v s op t) : Extends K v s t := by
  cases op with
  | publish r =>
    obtain rfl := hstep
    obtain ⟨hgood, hevents, hstream, -⟩ := h.publish_good hv r
    exact ⟨hgood, hevents, hstream⟩
  | reopen random =>
    obtain rfl : s = t := Except.ok.inj ((h.open hv random).symm.trans hstep)
    exact .refl h

theorem Good.run (h : Good K v s) (hv : v.Valid) {ops : List JournalOp}
    (hrun : Run (JournalStep K v) s ops t) : Extends K v s t :=
  hrun.invariant (.refl h) fun _ _ _ ih hstep =>
    ih.trans (ih.good.step hv hstep)

theorem Covered.extends {s t : Store} (h : Covered s.events r) (hext : Extends K v s t) :
    Covered t.events r := by
  obtain ⟨rest, hrest⟩ := hext.events
  obtain ⟨d, hd, hdr⟩ | hlength := h
  · exact .inl ⟨d, hrest ▸ List.mem_append_left _ hd, hdr⟩
  · refine .inr (le_antisymm (hext.good.recorded.length_filter_le r.bond) ?_)
    rw [← hrest, List.filter_append, List.length_append, hlength]
    exact Nat.le_add_right _ _

theorem Good.publish_of_settled (h : Good K v s) (hv : v.Valid) (hsettled : Settled K v s r) :
    (s.publish K r).1 = s := by
  obtain ⟨answer, hpublish, -⟩ | ⟨e, status, hprepare, -⟩ := h.publish hv r
  · rw [hpublish]
  · obtain ⟨hverify, -⟩ := Store.prepare_base_eq_ok hprepare
    obtain ⟨status', hnone⟩ := Store.prepare_of_covered hverify (hsettled hverify)
    rw [hprepare] at hnone
    cases hnone

theorem Good.settled_of_run (h : Good K v s) (hv : v.Valid) {receipts : List Receipt}
    (hrun : Run (JournalStep K v) s (receipts.map .publish) t) :
    ∀ r ∈ receipts, Settled K v t r := by
  induction receipts generalizing s with
  | nil => simp
  | cons first receipts ih =>
    rw [List.map_cons, Run.cons_iff] at hrun
    obtain ⟨mid, hfirst, hrest⟩ := hrun
    obtain rfl := hfirst
    obtain ⟨hgood, -, -, hcovered⟩ := h.publish_good hv first
    refine List.forall_mem_cons.2 ⟨fun hverify => ?_, ih hgood hrest⟩
    exact (hcovered hverify).extends (hgood.run hv hrest)

theorem Good.run_of_settled (h : Good K v s) (hv : v.Valid) {receipts : List Receipt}
    (hsettled : ∀ r ∈ receipts, Settled K v s r)
    (hrun : Run (JournalStep K v) s (receipts.map .publish) t) : t = s := by
  induction receipts with
  | nil => exact (Run.nil_iff.1 hrun).symm
  | cons first receipts ih =>
    rw [List.forall_mem_cons] at hsettled
    rw [List.map_cons, Run.cons_iff] at hrun
    obtain ⟨mid, hfirst, hrest⟩ := hrun
    obtain rfl : mid = s := hfirst.trans (h.publish_of_settled hv hsettled.1)
    exact ih hsettled.2 hrest

end Histories

/-- **The journal of a relay over whole histories.**  For every profile that was checked, and after
any number of publications and restarts: the records are numbered; each bond has at most two, for
different transactions, of which the second carries the first; records and the id of the stream
stay as they are; publishing the same promises again changes nothing; and the file is opened again
as the same store. -/
theorem relay_journal_invariant (K : PreconfCrypto) (p : Profile) (v : ValidatedProfile)
    (hv : p.validate K = .ok v) (random : Uint256) :
    ∃ start, Store.open K v random [] = .ok start ∧
      ∀ (ops : List JournalOp) (s : Store), Run (JournalStep K v) start ops s →
        s.failed = false ∧
        (∀ i e, s.events[i]? = some e → e.seq = i + 1) ∧
        (∀ bond, BondEvents (s.events.filter fun e => e.receipt.bond = bond)) ∧
        (∀ (later : List JournalOp) (t : Store), Run (JournalStep K v) s later t →
          s.events <+: t.events ∧ t.stream = s.stream) ∧
        (∀ (receipts again : List Receipt) (t u : Store),
          Run (JournalStep K v) s (receipts.map .publish) t → again ⊆ receipts →
          Run (JournalStep K v) t (again.map .publish) u → u = t) ∧
        ∀ random', Store.open K v random' s.journal = .ok s := by
  have hvalid := Profile.validate_valid hv
  refine ⟨.fresh v random, open_nil hvalid random, fun ops s hrun => ?_⟩
  have hgood := ((Good.fresh random).run hvalid hrun).good
  refine ⟨hgood.failed, hgood.recorded.seq, hgood.recorded.bonds, ?_, ?_, hgood.open hvalid⟩
  · intro later t hlater
    have hext := hgood.run hvalid hlater
    exact ⟨hext.events, hext.stream⟩
  · intro receipts again t u hfirst hsubset hagain
    have ht := (hgood.run hvalid hfirst).good
    have hsettled := hgood.settled_of_run hvalid hfirst
    exact ht.run_of_settled hvalid (fun r hr => hsettled r (hsubset hr)) hagain

/-! ### A journal with a conflict -/

namespace Sample

open Preconf.Sample

/-- Every signature is accepted. -/
def relayCrypto : PreconfCrypto := preconfCrypto fun _ => true

/-- A profile with the sample bond. -/
def relayProfile : Profile where
  version := 1
  sessions := [⟨bondOutpoint, bondConfig⟩]

/-- The profile, checked. -/
def validatedProfile : ValidatedProfile where
  id := writeHex (relayCrypto.sha256 relayProfile.encode).data
  bonds := [(bondOutpoint, operatorBondOf fun _ => true)]

theorem validate_relayProfile : relayProfile.validate relayCrypto = .ok validatedProfile := by
  have hsort : relayProfile.sessions.mergeSort (fun a b => OutPoint.le a.bond b.bond) =
      relayProfile.sessions := List.mergeSort_singleton _
  simp only [Profile.validate, hsort]
  rfl

/-- The promise for a transaction. -/
def relayReceipt (txid : UInt8) : Receipt := receiptOf (fun _ => true) (.ofByte txid)

end Sample

open Relay.Sample in
/-- Three promises for one bond leave two records, and publishing them again changes nothing. -/
theorem relay_journal_invariant_sample : ∃ start s,
    Store.open relayCrypto validatedProfile (.ofByte 9) [] = .ok start ∧
      Run (JournalStep relayCrypto validatedProfile) start
        ([relayReceipt 10, relayReceipt 11, relayReceipt 12].map .publish) s ∧
      Store.open relayCrypto validatedProfile (.ofByte 8) s.journal = .ok s ∧
      ∀ t, Run (JournalStep relayCrypto validatedProfile) s
        ([relayReceipt 12, relayReceipt 10].map .publish) t → t = s := by
  obtain ⟨start, hopen, hall⟩ := relay_journal_invariant relayCrypto relayProfile validatedProfile
    validate_relayProfile (.ofByte 9)
  have hrun : ∃ s, Run (JournalStep relayCrypto validatedProfile) start
      ([relayReceipt 10, relayReceipt 11, relayReceipt 12].map .publish) s :=
    ⟨_, Run.cons_iff.2 ⟨_, rfl, Run.cons_iff.2 ⟨_, rfl, Run.cons_iff.2 ⟨_, rfl, .nil⟩⟩⟩⟩
  obtain ⟨s, hrun⟩ := hrun
  obtain ⟨-, -, -, -, -, hreopen⟩ := hall _ s hrun
  obtain ⟨-, -, -, -, hagain, -⟩ := hall [] start .nil
  exact ⟨start, s, hopen, hrun, hreopen _, fun t ht => hagain _ _ s t hrun (by simp) ht⟩

end ElementsDrivechain.Relay
