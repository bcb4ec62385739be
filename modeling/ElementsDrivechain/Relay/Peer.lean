import Mathlib.Data.Finset.Card
import ElementsDrivechain.Relay.Hub

/-!
# Relays that follow each other

A relay follows the journals of its peers and publishes the promises that it reads there in its
own.  It moves its cursor only after both promises of a record are in its own file, and until then
anything may happen in between: other publications, a failure of the file, the end of the session.

* `SessionState.commit` : the cursor moves over a record that is covered.
* `min_card_txids_le` : covered records give as many different transactions, up to two.
* `conflicts_propagate` : **what a relay has read is covered by its own journal, and relays that
  have caught up with each other agree on which bonds are conflicted.**
-/

namespace ElementsDrivechain.Relay

open Fallible Preconf

/-! ### The sessions -/

/-- The evidence of a conflict that a message carries. -/
def ServerMessage.conflict : ServerMessage → Option Receipt
  | .event e => e.conflictWith
  | _ => none

/-- A session with a peer: the client, and, while the next message is taken up, what is still to be
published. -/
structure PeerSession where
  client : Client
  ingest : Option (List Receipt)

/-- The end of a session. -/
def PeerSession.stop (x : PeerSession) : PeerSession := ⟨x.client.disconnect, none⟩

/-- Process the next message, without moving the cursor. -/
def PeerSession.take (K : PreconfCrypto) (v : ValidatedProfile) (x : PeerSession)
    (m : ServerMessage) : PeerSession :=
  match (x.client.tracker.process K v m).2 with
  | .ok (some receipt) => { x with ingest := some (receipt :: m.conflict.toList) }
  | .ok none => { x with ingest := some [] }
  | .error _ => x.stop

/-- After a promise was published, or not. -/
def PeerSession.ingested (x : PeerSession) (rest : List Receipt) :
    Except String (PublishStatus × ℕ) → PeerSession
  | .ok _ => { x with ingest := some rest }
  | .error _ => x.stop

/-- Move the cursor over a message. -/
def PeerSession.commit (K : PreconfCrypto) (v : ValidatedProfile) (x : PeerSession)
    (conn : Connection) (m : ServerMessage) (rest : List ServerMessage) : PeerSession :=
  ⟨x.client.deliver K v conn m rest, none⟩

/-- Something happened to the client.  When the connection ends, taking up a message ends too. -/
def PeerSession.update (x : PeerSession) (c : Client) : PeerSession :=
  ⟨c, if c.conn.isSome then x.ingest else none⟩

/-- Relays, and the session of each with each: the first follows the second. -/
structure Network (ι : Type) where
  hubs : ι → Hub
  sessions : ι × ι → PeerSession

/-- Someone publishes a promise at a relay; a relay publishes one at another over its session;
something happens between a relay and the one that follows it; the one that follows takes up a
message, publishes a promise of it in its own journal, or moves its cursor. -/
inductive PeerOp (ι : Type) where
  | publish (i : ι) (written : Bool) (r : Receipt)
  | request (i j : ι) (written : Bool) (r : Receipt)
  | session (i j : ι) (op : ClientOp)
  | take (i j : ι)
  | ingest (i j : ι) (written : Bool)
  | commit (i j : ι)

section Step

variable (K : PreconfCrypto) (v : ValidatedProfile) {ι : Type} [DecidableEq ι]

/-- The steps of relays that follow each other. -/
def PeerStep (s : Network ι) : PeerOp ι → Network ι → Prop
  | .publish i written r, t =>
    t = { s with hubs := Function.update s.hubs i ((s.hubs i).publish K written r).1 }
  | .request i j written r, t => ∃ conn,
      (s.sessions (i, j)).client.conn = some conn ∧ conn.IsLive ∧
      t = { hubs := Function.update s.hubs j ((s.hubs j).publish K written r).1
            sessions := Function.update s.sessions (i, j) ((s.sessions (i, j)).update
              { (s.sessions (i, j)).client with
                conn := some (conn.answer ((s.hubs j).publish K written r).2) }) }
  | .session i j op, t => op ≠ .deliver ∧
      -- a session starts with a snapshot of the relay's own journal
      (op = .subscribe → (s.hubs i).store.failed = false) ∧
      ∃ c, ClientStep K v (s.hubs j) (s.sessions (i, j)).client op c ∧
        t = { s with sessions :=
          Function.update s.sessions (i, j) ((s.sessions (i, j)).update c) }
  | .take i j, t => ∃ conn m rest, (s.sessions (i, j)).ingest = none ∧
      (s.sessions (i, j)).client.conn = some conn ∧ conn.wire = m :: rest ∧
      t = { s with sessions :=
        Function.update s.sessions (i, j) ((s.sessions (i, j)).take K v m) }
  | .ingest i j written, t => ∃ r rest, (s.sessions (i, j)).ingest = some (r :: rest) ∧
      t = { hubs := Function.update s.hubs i ((s.hubs i).publish K written r).1
            sessions := Function.update s.sessions (i, j)
              ((s.sessions (i, j)).ingested rest ((s.hubs i).publish K written r).2) }
  | .commit i j, t => ∃ conn m rest, (s.sessions (i, j)).ingest = some [] ∧
      (s.sessions (i, j)).client.conn = some conn ∧ conn.wire = m :: rest ∧
      t = { s with sessions :=
        Function.update s.sessions (i, j) ((s.sessions (i, j)).commit K v conn m rest) }

end Step

/-! ### What is known of a session -/

variable {c c' : Client} {conn : Connection} {m : ServerMessage}

section Sessions

variable {K : PreconfCrypto} {v : ValidatedProfile} {base : ℕ} {own own' remote remote' : Hub}
  {x : PeerSession}

/-- The promises that a message carries. -/
def ServerMessage.receipts (m : ServerMessage) : List Receipt :=
  m.events.flatMap fun e => e.receipt :: e.conflictWith.toList

/-- What is known of the session of a relay with a remote one. -/
structure SessionState (K : PreconfCrypto) (v : ValidatedProfile) (base : ℕ) (own remote : Hub)
    (x : PeerSession) : Prop where
  following : Following K v base remote x.client
  /-- The records before the cursor are covered. -/
  covered : ∀ e ∈ x.client.accepted, Covered own.store.events e.receipt
  /-- While a message is taken up: what was published of it is covered. -/
  ingesting : ∀ rest, x.ingest = some rest → ∃ conn m later done,
    x.client.conn = some conn ∧ conn.wire = m :: later ∧ m.receipts = done ++ rest ∧
      ∀ r ∈ done, Covered own.store.events r

theorem Covered.grows {s t : Store} {r : Receipt} (h : Covered s.events r) (hint : Intact K v t)
    (hg : Grows s t) : Covered t.events r :=
  Covered.extends (s := { s with failed := false }) (t := { t with failed := false }) h
    ⟨hint, hg.events, hg.stream⟩

/-- The client accepted nothing, and the messages on their way are still there. -/
def Keeps (c c' : Client) : Prop :=
  c'.accepted = c.accepted ∧
    ∀ conn conn', c.conn = some conn → c'.conn = some conn' → conn.wire <+: conn'.wire

theorem Keeps.of_conn {conn' : Connection} (haccepted : c'.accepted = c.accepted)
    (hconn : c.conn = some conn) (hconn' : c'.conn = some conn') (h : conn.wire <+: conn'.wire) :
    Keeps c c' := by
  refine ⟨haccepted, fun old new hold hnew => ?_⟩
  obtain rfl := Option.some.inj (hconn.symm.trans hold)
  obtain rfl := Option.some.inj (hconn'.symm.trans hnew)
  exact h

theorem Keeps.of_none (haccepted : c'.accepted = c.accepted) (h : c.conn = none ∨ c'.conn = none) :
    Keeps c c' := by
  refine ⟨haccepted, fun old new hold hnew => ?_⟩
  obtain hnone | hnone := h
  · exact absurd (hnone.symm.trans hold) nofun
  · exact absurd (hnone.symm.trans hnew) nofun

theorem Keeps.proceed (hconn : c.conn = some conn) {result : Except String Connection}
    (h : ∀ next, result = .ok next → conn.wire <+: next.wire) :
    Keeps c (c.proceed conn result) := by
  cases result with
  | error e => exact .of_conn rfl hconn rfl List.prefix_rfl
  | ok next => exact .of_conn rfl hconn rfl (h next rfl)

theorem Connection.prefix_of_live {next : Connection} (h : conn.live remote = .ok next) :
    conn.wire <+: next.wire := by
  simp only [Connection.live, bind_eq_ok] at h
  obtain ⟨change, -, h⟩ := h
  rcases change with _ | (⟨⟨⟩⟩ | e)
  · obtain rfl := pure_eq_ok.1 h
    exact List.prefix_rfl
  · exact absurd h throw_ne_ok
  · simp only [bind_eq_ok, pure_eq_ok] at h
    obtain ⟨-, -, rfl⟩ := h
    exact List.prefix_append _ _

theorem Connection.prefix_of_beat {next : Connection} (h : conn.beat remote = .ok next) :
    conn.wire <+: next.wire := by
  simp only [Connection.beat, bind_eq_ok, pure_eq_ok] at h
  obtain ⟨-, -, rfl⟩ := h
  exact List.prefix_append _ _

theorem Connection.prefix_answer (conn : Connection)
    (result : Except String (PublishStatus × ℕ)) : conn.wire <+: (conn.answer result).wire := by
  cases result with
  | error e => exact List.prefix_rfl
  | ok answer => exact List.prefix_append _ _

/-- Only a delivery accepts records or takes a message from its way. -/
theorem ClientStep.keeps {op : ClientOp} (h : ClientStep K v remote c op c') (hop : op ≠ .deliver) :
    Keeps c c' := by
  cases op with
  | deliver => exact absurd rfl hop
  | subscribe =>
    obtain ⟨hnone, rfl⟩ := h
    refine .of_none ?_ (.inl hnone)
    rw [Client.subscribe]
    split <;> rfl
  | send =>
    obtain ⟨conn, m, rest, hconn, -, rfl⟩ := h
    exact .of_conn rfl hconn rfl (List.prefix_append _ _)
  | live =>
    obtain ⟨conn, hconn, -, rfl⟩ := h
    exact .proceed hconn fun _ => Connection.prefix_of_live
  | heartbeat =>
    obtain ⟨conn, hconn, -, rfl⟩ := h
    exact .proceed hconn fun _ => Connection.prefix_of_beat
  | close reason =>
    obtain ⟨conn, hconn, -, rfl⟩ := h
    exact .of_conn rfl hconn rfl List.prefix_rfl
  | deliverError =>
    obtain ⟨conn, reason, -, -, -, rfl⟩ := h
    exact .of_none rfl (.inr rfl)
  | disconnect =>
    obtain rfl := h
    exact .of_none rfl (.inr rfl)

theorem Tracker.processInner_receipt {t t' : Tracker} {receipt : Option Receipt}
    (h : t.processInner K v m = .ok (t', receipt)) :
    m.receipts = receipt.elim [] fun r => r :: m.conflict.toList := by
  cases m with
  | event e =>
    simp only [processInner, bind_eq_ok, pure_eq_ok, Prod.mk.injEq] at h
    obtain ⟨-, -, -, -, -, -, -, -, -, rfl⟩ := h
    simp [ServerMessage.receipts, ServerMessage.events, ServerMessage.conflict]
  | error reason => exact absurd h throw_ne_ok
  | _ =>
    simp only [processInner, bind_eq_ok, pure_eq_ok, Prod.mk.injEq] at h
    obtain rfl : receipt = none := by tauto
    rfl

variable (h : SessionState K v base own remote x)

include h

theorem SessionState.grows (hint : Intact K v own'.store) (hown : Grows own.store own'.store)
    (hremote : Grows remote.store remote'.store) : SessionState K v base own' remote' x := by
  refine ⟨h.following.grows hremote, fun e he => (h.covered e he).grows hint hown, ?_⟩
  intro rest hrest
  obtain ⟨conn, m, later, done, hconn, hwire, hreceipts, hdone⟩ := h.ingesting rest hrest
  exact ⟨conn, m, later, done, hconn, hwire, hreceipts,
    fun r hr => (hdone r hr).grows hint hown⟩

theorem SessionState.stop : SessionState K v base own remote x.stop :=
  ⟨h.following.disconnected, h.covered, fun _ hrest => (nomatch hrest)⟩

/-- A step that keeps the messages keeps what is known of a session. -/
theorem SessionState.update (hc : Following K v base remote c) (hkeeps : Keeps x.client c) :
    SessionState K v base own remote (x.update c) := by
  obtain ⟨haccepted, hwire⟩ := hkeeps
  refine ⟨hc, fun e he => h.covered e (haccepted ▸ he), fun rest hrest => ?_⟩
  cases hconn' : c.conn with
  | none => simp [PeerSession.update, hconn'] at hrest
  | some conn' =>
    have hrest' : x.ingest = some rest := by simpa [PeerSession.update, hconn'] using hrest
    obtain ⟨conn, m, later, done, hconn, hm, hreceipts, hdone⟩ := h.ingesting rest hrest'
    obtain ⟨more, hmore⟩ := hwire conn conn' hconn hconn'
    refine ⟨conn', m, later ++ more, done, hconn', ?_, hreceipts, hdone⟩
    rw [← hmore, hm, List.cons_append]

/-- Taking up a message: all of its promises are to be published. -/
theorem SessionState.take {later : List ServerMessage} (hconn : x.client.conn = some conn)
    (hwire : conn.wire = m :: later) : SessionState K v base own remote (x.take K v m) := by
  obtain ⟨t, receipt, -, hm, -, -⟩ := (h.following.pending conn hconn).processInner hwire
  have hreceipts := Tracker.processInner_receipt hm
  have htake : x.take K v m = { x with ingest := some m.receipts } := by
    rw [hreceipts]
    cases receipt <;> simp only [PeerSession.take, Tracker.process, hm] <;> rfl
  rw [htake]
  refine ⟨h.following, h.covered, ?_⟩
  rintro _ ⟨⟩
  exact ⟨conn, m, later, [], hconn, hwire, rfl, by simp⟩

/-- A promise of the message is published, or the session ends. -/
theorem SessionState.ingested {r : Receipt} {rest : List Receipt}
    (hrest : x.ingest = some (r :: rest)) {result : Except String (PublishStatus × ℕ)}
    (hcovered : ∀ answer, result = .ok answer → Covered own.store.events r) :
    SessionState K v base own remote (x.ingested rest result) := by
  cases result with
  | error e => exact h.stop
  | ok answer =>
    obtain ⟨conn, m, later, done, hconn, hwire, hreceipts, hdone⟩ := h.ingesting _ hrest
    refine ⟨h.following, h.covered, ?_⟩
    rintro _ ⟨⟩
    refine ⟨conn, m, later, done ++ [r], hconn, hwire, by simpa using hreceipts, ?_⟩
    intro d hd
    obtain hd | hd := List.mem_append.1 hd
    · exact hdone d hd
    · rw [List.mem_singleton.1 hd]
      exact hcovered answer rfl

/-- **The cursor moves over a record that is covered.** -/
theorem SessionState.commit {later : List ServerMessage} (hrest : x.ingest = some [])
    (hconn : x.client.conn = some conn) (hwire : conn.wire = m :: later) :
    SessionState K v base own remote (x.commit K v conn m later) := by
  obtain ⟨⟨t, receipt, -, hdeliver⟩, hfollowing⟩ := h.following.deliver hconn hwire
  obtain ⟨conn', m', later', done, hconn', hwire', hreceipts, hdone⟩ := h.ingesting _ hrest
  obtain rfl := Option.some.inj (hconn.symm.trans hconn')
  obtain ⟨rfl, rfl⟩ := List.cons.inj (hwire.symm.trans hwire')
  refine ⟨hfollowing, fun e he => ?_, fun _ hnone => (nomatch hnone)⟩
  simp only [PeerSession.commit, hdeliver, List.mem_append] at he
  obtain he | he := he
  · exact h.covered e he
  · refine hdone _ ?_
    rw [← List.append_nil done, ← hreceipts]
    exact List.mem_flatMap.2 ⟨e, he, List.mem_cons_self⟩

end Sessions

section Runs

variable {K : PreconfCrypto} {v : ValidatedProfile} {ι : Type} [DecidableEq ι] {base : ι → ℕ}
  {s : Network ι}

/-- What is known of relays that follow each other. -/
structure NetworkState (K : PreconfCrypto) (v : ValidatedProfile) (base : ι → ℕ) (s : Network ι) :
    Prop where
  hubs : ∀ i, HubState K v (base i) (s.hubs i)
  sessions : ∀ p, SessionState K v (base p.2) (s.hubs p.1) (s.hubs p.2) (s.sessions p)

theorem NetworkState.publish (h : NetworkState K v base s) (hv : v.Valid) (i : ι) (written : Bool)
    (r : Receipt) :
    NetworkState K v base
        { s with hubs := Function.update s.hubs i ((s.hubs i).publish K written r).1 } ∧
      ∀ answer, ((s.hubs i).publish K written r).2 = .ok answer →
        Covered ((s.hubs i).publish K written r).1.store.events r := by
  obtain ⟨hhub, hgrows, hcovered⟩ := (h.hubs i).publish hv written r
  have hhubs : ∀ j, HubState K v (base j)
      (Function.update s.hubs i ((s.hubs i).publish K written r).1 j) :=
    (Function.forall_update_iff s.hubs fun j hub => HubState K v (base j) hub).2
      ⟨hhub, fun j _ => h.hubs j⟩
  have hall : ∀ j, Grows (s.hubs j).store
      (Function.update s.hubs i ((s.hubs i).publish K written r).1 j).store :=
    (Function.forall_update_iff s.hubs fun j hub => Grows (s.hubs j).store hub.store).2
      ⟨hgrows, fun j _ => .refl _⟩
  exact ⟨⟨hhubs, fun p => (h.sessions p).grows (hhubs p.1).intact (hall p.1) (hall p.2)⟩, hcovered⟩

theorem NetworkState.with_session (h : NetworkState K v base s) {p : ι × ι} {x : PeerSession}
    (hx : SessionState K v (base p.2) (s.hubs p.1) (s.hubs p.2) x) :
    NetworkState K v base { s with sessions := Function.update s.sessions p x } :=
  ⟨h.hubs, (Function.forall_update_iff s.sessions fun q y =>
    SessionState K v (base q.2) (s.hubs q.1) (s.hubs q.2) y).2 ⟨hx, fun q _ => h.sessions q⟩⟩

theorem NetworkState.step {t : Network ι} (h : NetworkState K v base s) (hv : v.Valid)
    {op : PeerOp ι} (hstep : PeerStep K v s op t) : NetworkState K v base t := by
  cases op with
  | publish i written r =>
    obtain rfl := hstep
    exact (h.publish hv i written r).1
  | request i j written r =>
    obtain ⟨conn, hconn, hlive, rfl⟩ := hstep
    obtain ⟨hnext, -⟩ := h.publish hv j written r
    have hsession := hnext.sessions (i, j)
    exact hnext.with_session (hsession.update (hsession.following.answer hconn hlive _)
      (.of_conn rfl hconn rfl (conn.prefix_answer _)))
  | session i j op =>
    obtain ⟨hop, -, c, hclient, rfl⟩ := hstep
    have hsession := h.sessions (i, j)
    exact h.with_session (hsession.update (hsession.following.step (h.hubs j) hv hclient)
      (hclient.keeps hop))
  | take i j =>
    obtain ⟨conn, m, rest, -, hconn, hwire, rfl⟩ := hstep
    exact h.with_session ((h.sessions (i, j)).take hconn hwire)
  | ingest i j written =>
    obtain ⟨r, rest, hrest, rfl⟩ := hstep
    obtain ⟨hnext, hcovered⟩ := h.publish hv i written r
    refine hnext.with_session ((hnext.sessions (i, j)).ingested hrest fun answer hanswer => ?_)
    simpa using hcovered answer hanswer
  | commit i j =>
    obtain ⟨conn, m, rest, hrest, hconn, hwire, rfl⟩ := hstep
    exact h.with_session ((h.sessions (i, j)).commit hrest hconn hwire)

/-- Relays that were just started. -/
def Network.start (stores : ι → Store) : Network ι where
  hubs i := ⟨stores i, []⟩
  sessions p := ⟨.start (stores p.2) none, none⟩

omit [DecidableEq ι] in
theorem NetworkState.start {stores : ι → Store} (h : ∀ i, Good K v (stores i)) :
    NetworkState K v (fun i => (stores i).events.length) (Network.start stores) :=
  ⟨fun i => .start (h i), fun p => ⟨.start (by simp), fun e he => (nomatch he), fun _ hnone =>
    (nomatch hnone)⟩⟩

end Runs

section Conflicts

variable {K : PreconfCrypto} {v : ValidatedProfile} {events events' : List Event}

/-- The transactions that were promised with a bond. -/
def txids (events : List Event) (bond : OutPoint) : Finset Uint256 :=
  ((events.filter fun e => e.receipt.bond = bond).map (·.receipt.txid)).toFinset

/-- There are promises for two transactions. -/
def Conflicted (events : List Event) (bond : OutPoint) : Prop := (txids events bond).card = 2

theorem mem_txids {bond : OutPoint} {txid : Uint256} :
    txid ∈ txids events bond ↔
      ∃ e ∈ events, e.receipt.bond = bond ∧ e.receipt.txid = txid := by
  simp [txids, and_assoc]

theorem Recorded.card_txids (h : Recorded K v events) (bond : OutPoint) :
    (txids events bond).card = (events.filter fun e => e.receipt.bond = bond).length := by
  have hbonds := h.bonds bond
  rw [txids]
  generalize (events.filter fun e => e.receipt.bond = bond) = l at hbonds
  cases hbonds with
  | none => rfl
  | one _ => simp
  | two _ _ hne => simp [Finset.card_pair hne]

/-- **Covered records give as many different transactions**, up to two. -/
theorem min_card_txids_le (h : Recorded K v events')
    (hcovered : ∀ e ∈ events, Covered events' e.receipt) (bond : OutPoint) :
    min 2 (txids events bond).card ≤ (txids events' bond).card := by
  by_cases hfull : (events'.filter fun e => e.receipt.bond = bond).length = 2
  · rw [h.card_txids, hfull]
    exact min_le_left _ _
  · refine (min_le_right _ _).trans (Finset.card_le_card fun txid htxid => ?_)
    obtain ⟨e, he, rfl, rfl⟩ := mem_txids.1 htxid
    obtain ⟨d, hd, hbond, heq⟩ | hlength := hcovered e he
    · exact mem_txids.2 ⟨d, hd, hbond, heq⟩
    · exact absurd hlength hfull

theorem Recorded.card_txids_le (h : Recorded K v events) (bond : OutPoint) :
    (txids events bond).card ≤ 2 := by
  rw [h.card_txids]
  exact h.length_filter_le bond

theorem conflicted_of_min_le (h : Recorded K v events') {bond : OutPoint}
    (hle : min 2 (txids events bond).card ≤ (txids events' bond).card)
    (hconflicted : Conflicted events bond) : Conflicted events' bond := by
  rw [hconflicted, min_self] at hle
  exact le_antisymm (h.card_txids_le bond) hle

end Conflicts

/-- The cursor of a relay in the journal of another is at its end. -/
def Network.CaughtUpWith {ι : Type} (s : Network ι) (i j : ι) : Prop :=
  (s.sessions (i, j)).client.tracker.cursor =
    some ⟨(s.hubs j).store.stream, (s.hubs j).store.head⟩

/-- **Conflicts propagate between relays.**  Start relays on any journals for a profile, and let
anyone publish, the relays follow each other, and sessions, connections and files fail, in any
order.  Then, for a relay whose cursor is at some place of another's journal, each bond has in its
own journal as many different transactions as among the records up to there, or two; an own file
that did not fail is opened again with these records; and two relays that have caught up with each
other agree on which bonds are conflicted. -/
theorem conflicts_propagate (K : PreconfCrypto) (p : Profile) (v : ValidatedProfile)
    (hv : p.validate K = .ok v) {ι : Type} [DecidableEq ι] (stores : ι → Store)
    (hstores : ∀ i, ∃ random opened history, Store.open K v random [] = .ok opened ∧
      Run (JournalStep K v) opened history (stores i))
    (ops : List (PeerOp ι)) (s : Network ι)
    (hrun : Run (PeerStep K v) (Network.start stores) ops s) (i j : ι) :
    (∀ cursor, (s.sessions (i, j)).client.tracker.cursor = some cursor →
      cursor.stream = (s.hubs j).store.stream ∧ cursor.seq ≤ (s.hubs j).store.head ∧
      ∀ bond, min 2 (txids ((s.hubs j).store.events.take cursor.seq) bond).card ≤
        (txids (s.hubs i).store.events bond).card) ∧
      ((s.hubs i).store.failed = false →
        ∀ random, Store.open K v random (s.hubs i).store.journal = .ok (s.hubs i).store) ∧
      (s.CaughtUpWith i j → s.CaughtUpWith j i → ∀ bond,
        Conflicted (s.hubs i).store.events bond ↔ Conflicted (s.hubs j).store.events bond) := by
  have hvalid := Profile.validate_valid hv
  have hgood : ∀ k, Good K v (stores k) := by
    intro k
    obtain ⟨random, opened, history, hopen, hhistory⟩ := hstores k
    exact ((Good.of_open_nil hvalid hopen).run hvalid hhistory).good
  have hstate : NetworkState K v (fun k => (stores k).events.length) s :=
    hrun.invariant (.start hgood)
      fun _ _ _ h hstep => h.step hvalid hstep
  have hrecorded : ∀ k, Recorded K v (s.hubs k).store.events :=
    fun k => (hstate.hubs k).intact.recorded
  have hread : ∀ a b cursor, (s.sessions (a, b)).client.tracker.cursor = some cursor →
      ∀ bond, min 2 (txids ((s.hubs b).store.events.take cursor.seq) bond).card ≤
        (txids (s.hubs a).store.events bond).card := by
    intro a b cursor hcursor bond
    have hsession := hstate.sessions (a, b)
    have haccepted := hsession.following.accepted
    rw [show (s.sessions (a, b)).client.tracker.seq = cursor.seq by
      simp [Tracker.seq, hcursor]] at haccepted
    exact min_card_txids_le (hrecorded a) (haccepted ▸ hsession.covered) bond
  have hcaught : ∀ a b bond, s.CaughtUpWith a b → Conflicted (s.hubs b).store.events bond →
      Conflicted (s.hubs a).store.events bond := by
    intro a b bond hab hconflicted
    have hle := hread a b _ hab bond
    rw [Store.head, List.take_length] at hle
    exact conflicted_of_min_le (hrecorded a) hle hconflicted
  refine ⟨fun cursor hcursor => ?_, fun hfailed random => ?_, fun hij hji bond => ?_⟩
  · obtain ⟨hstream, hle⟩ := (hstate.sessions (i, j)).following.cursor cursor hcursor
    exact ⟨hstream, hle, hread i j cursor hcursor⟩
  · exact ((hstate.hubs i).intact.good hfailed).open hvalid random
  · exact ⟨hcaught j i bond hji, hcaught i j bond hij⟩

namespace Sample

/-- The first relay has a conflict in its journal, and the second has nothing. -/
def peerStores : Bool → Store
  | true => (servedStore.publish relayCrypto (relayReceipt 11)).1
  | false => openedStore

/-- A relay reads two records of another. -/
def readTwo (i j : Bool) : List (PeerOp Bool) :=
  [.session i j .subscribe, .session i j .send, .session i j .send, .session i j .send,
    .take i j, .commit i j, .take i j, .ingest i j true, .commit i j,
    .take i j, .ingest i j true, .ingest i j true, .commit i j]

end Sample

set_option maxRecDepth 16000 in
open Relay.Sample Preconf.Sample in
/-- Each relay reads the journal of the other, and both have the conflict. -/
theorem conflicts_propagate_sample : ∃ s,
    Run (PeerStep relayCrypto validatedProfile) (Network.start peerStores)
        (readTwo false true ++ readTwo true false) s ∧
      s.CaughtUpWith false true ∧ s.CaughtUpWith true false ∧
      Conflicted (s.hubs true).store.events bondOutpoint ∧
      Conflicted (s.hubs false).store.events bondOutpoint := by
  have hrun : ∃ s, Run (PeerStep relayCrypto validatedProfile) (Network.start peerStores)
      (readTwo false true ++ readTwo true false) s ∧
        s.CaughtUpWith false true ∧ s.CaughtUpWith true false ∧
        Conflicted (s.hubs true).store.events bondOutpoint := by
    refine ⟨_, .cons ⟨nofun, fun _ => rfl, _, ⟨rfl, rfl⟩, rfl⟩ <|
      .cons ⟨nofun, nofun, _, ⟨_, _, _, rfl, rfl, rfl⟩, rfl⟩ <|
      .cons ⟨nofun, nofun, _, ⟨_, _, _, rfl, rfl, rfl⟩, rfl⟩ <|
      .cons ⟨nofun, nofun, _, ⟨_, _, _, rfl, rfl, rfl⟩, rfl⟩ <|
      .cons ⟨_, _, _, rfl, rfl, rfl, rfl⟩ <| .cons ⟨_, _, _, rfl, rfl, rfl, rfl⟩ <|
      .cons ⟨_, _, _, rfl, rfl, rfl, rfl⟩ <| .cons ⟨_, _, rfl, rfl⟩ <|
      .cons ⟨_, _, _, rfl, rfl, rfl, rfl⟩ <| .cons ⟨_, _, _, rfl, rfl, rfl, rfl⟩ <|
      .cons ⟨_, _, rfl, rfl⟩ <| .cons ⟨_, _, rfl, rfl⟩ <| .cons ⟨_, _, _, rfl, rfl, rfl, rfl⟩ <|
      .cons ⟨nofun, fun _ => rfl, _, ⟨rfl, rfl⟩, rfl⟩ <|
      .cons ⟨nofun, nofun, _, ⟨_, _, _, rfl, rfl, rfl⟩, rfl⟩ <|
      .cons ⟨nofun, nofun, _, ⟨_, _, _, rfl, rfl, rfl⟩, rfl⟩ <|
      .cons ⟨nofun, nofun, _, ⟨_, _, _, rfl, rfl, rfl⟩, rfl⟩ <|
      .cons ⟨_, _, _, rfl, rfl, rfl, rfl⟩ <| .cons ⟨_, _, _, rfl, rfl, rfl, rfl⟩ <|
      .cons ⟨_, _, _, rfl, rfl, rfl, rfl⟩ <| .cons ⟨_, _, rfl, rfl⟩ <|
      .cons ⟨_, _, _, rfl, rfl, rfl, rfl⟩ <| .cons ⟨_, _, _, rfl, rfl, rfl, rfl⟩ <|
      .cons ⟨_, _, rfl, rfl⟩ <| .cons ⟨_, _, rfl, rfl⟩ <|
      .cons ⟨_, _, _, rfl, rfl, rfl, rfl⟩ .nil, ?_, ?_, ?_⟩
    · rfl
    · rfl
    · rfl
  have hstores : ∀ i, ∃ random opened history,
      Store.open relayCrypto validatedProfile random [] = .ok opened ∧
        Run (JournalStep relayCrypto validatedProfile) opened history (peerStores i) := by
    intro i
    cases i with
    | true => exact ⟨_, openedStore, [.publish (relayReceipt 10), .publish (relayReceipt 11)],
        open_openedStore, .cons rfl (.cons rfl .nil)⟩
    | false => exact ⟨_, openedStore, [], open_openedStore, .nil⟩
  obtain ⟨s, hrun, hfirst, hsecond, hconflicted⟩ := hrun
  obtain ⟨-, -, hagree⟩ := conflicts_propagate relayCrypto relayProfile validatedProfile
    validate_relayProfile peerStores hstores _ s hrun false true
  exact ⟨s, hrun, hfirst, hsecond, hconflicted,
    (hagree hfirst hsecond bondOutpoint).2 hconflicted⟩

end ElementsDrivechain.Relay
