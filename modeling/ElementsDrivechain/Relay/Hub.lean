import ElementsDrivechain.Relay.Store

/-!
# Following the journal of a relay

A client subscribes to a relay with the place in the journal up to which it knows the records, its
*cursor*.  The relay answers with the records after it and then sends each new one.  It takes the
snapshot and starts to listen for new records under the lock under which records are added, so
that none falls in between.  The client refuses every message that does not fit its cursor.

* `Recorded.processInner_event` : the next record of a journal is accepted.
* `HubState.publish` : what a publication does, also when the file cannot be written.
* `Following.step` : every step of a client keeps what is known of it.
* `live_subscription_no_gap` : **in every interleaving the clients have the records of the journal
  without a gap, and no subscription is given up while the journal has not failed.**
-/

namespace ElementsDrivechain

namespace Relay

open Fallible Preconf

/-! ### The client -/

/-- A journal, and a place in it. -/
structure Cursor where
  stream : Bytes
  seq : ℕ
deriving DecidableEq

/-- What a relay sends. -/
inductive ServerMessage where
  | begin (profile stream : Bytes) (start through : ℕ)
  | event (event : Event)
  | caughtUp (cursor : Cursor)
  | heartbeat (cursor : Cursor)
  | published (seq : ℕ) (status : PublishStatus)
  | error (reason : String)

/-- The record that a message carries. -/
def ServerMessage.events : ServerMessage → List Event
  | .event e => [e]
  | _ => []

/-- What a client remembers of a journal. -/
structure Tracker where
  cursor : Option Cursor := none
  caughtUp : Bool := false
  through : Option ℕ := none
deriving DecidableEq

namespace Tracker

/-- The number of records before the cursor. -/
def seq (t : Tracker) : ℕ := (t.cursor.map (·.seq)).getD 0

/-- What remains when the connection is lost. -/
def disconnected (t : Tracker) : Tracker := { t with caughtUp := false, through := none }

section Process

variable (K : PreconfCrypto) (v : ValidatedProfile)

/-- The promise that a record carries as evidence conflicts with its own. -/
def checkConflict (receipt : Receipt) : Option Receipt → Except String Unit
  | none => pure ()
  | some other => do
    v.verify K other
    rejectIf (other.bond ≠ receipt.bond ∨ other.txid = receipt.txid) "invalid conflict evidence"

/-- A synchronization starts at the cursor. -/
def checkStart (cursor : Option Cursor) (stream : Bytes) (start : ℕ) : Except String Unit :=
  match cursor with
  | some c => rejectIf (c.stream ≠ stream ∨ c.seq ≠ start) "stream/cursor gap"
  | none => rejectIf (start ≠ 0) "snapshot must start at zero"

/-- Takes a message of the relay. -/
def processInner (t : Tracker) : ServerMessage → Except String (Tracker × Option Receipt)
  | .begin profile stream start through => do
    rejectIf (t.through ≠ none ∨ profile ≠ v.id ∨ through < start ∨ v.bonds.length * 2 < through ∨
      stream.length ≠ 64 ∨ readHex stream = none) "invalid synchronization header"
    checkStart t.cursor stream start
    return (⟨some ⟨stream, start⟩, false, some through⟩, none)
  | .event event => do
    let c ← orReject t.cursor "event before begin"
    rejectIf (t.through = none ∨ event.seq ≠ c.seq + 1 ∨ v.bonds.length * 2 < event.seq ∨
      (t.caughtUp = false ∧ t.through.getD 0 < event.seq)) "event sequence gap"
    v.verify K event.receipt
    checkConflict K v event.receipt event.conflictWith
    return ({ t with cursor := some { c with seq := event.seq } }, some event.receipt)
  | .caughtUp cursor => do
    rejectIf (t.caughtUp = true ∨ t.cursor ≠ some cursor ∨ t.through ≠ some cursor.seq)
      "incomplete replay"
    return ({ t with caughtUp := true }, none)
  | .heartbeat cursor => do
    rejectIf (t.caughtUp = false ∨ t.cursor ≠ some cursor) "heartbeat gap"
    return (t, none)
  | .published _ _ => return (t, none)
  | .error _ => throw "relay reported unavailable/gap"

/-- Process a message: the client afterwards, and the promise that came with it. -/
def process (t : Tracker) (m : ServerMessage) : Tracker × Except String (Option Receipt) :=
  match t.processInner K v m with
  | .ok (t', receipt) => (t', .ok receipt)
  | .error e => (t.disconnected, .error e)

end Process

end Tracker

section Relay

variable (K : PreconfCrypto)

/-- Publish a promise.  The record may turn out not to be `written` to the file: the store then
refuses everything. -/
def Store.publishWith (s : Store) (written : Bool) (receipt : Receipt) :
    Store × Except String (Option Event × PublishStatus × ℕ) :=
  match s.prepare K receipt, written with
  | .ok (some _, _), false =>
    ({ s with failed := true }, .error "journal write failed; monitoring disabled")
  | _, _ => s.publish K receipt

/-- The records after a cursor. -/
def Store.replay (s : Store) (cursor : Option Cursor) : Except String (List Event) := do
  rejectIf (s.failed = true) "journal unavailable"
  match cursor with
  | some c =>
    rejectIf (c.stream ≠ s.stream ∨ s.head < c.seq)
      "cursor gap or stream changed; full revalidation required"
    return s.events.drop c.seq
  | none => return s.events

/-- A relay: its store, and all that was sent to the listeners so far, new records or the notice
that the journal failed. -/
structure Hub where
  store : Store
  changes : List (Except Unit Event)

/-- How many messages the channel keeps for a listener. -/
def CHANNEL_CAPACITY : ℕ := MAX_SESSIONS * 2

/-- Publish a promise and tell the listeners, under one lock. -/
def Hub.publish (h : Hub) (written : Bool) (receipt : Receipt) :
    Hub × Except String (PublishStatus × ℕ) :=
  match h.store.publishWith K written receipt with
  | (store, .ok (event, answer)) =>
    (⟨store, h.changes ++ event.toList.map .ok⟩, .ok answer)
  | (store, .error e) =>
    (⟨store, if store.failed then h.changes ++ [.error ()] else h.changes⟩, .error e)

/-- The next message of the channel, if there is one. -/
def Hub.recv (h : Hub) (position : ℕ) : Except String (Option (Except Unit Event)) := do
  rejectIf (CHANNEL_CAPACITY < h.changes.length - position)
    "live stream gap; reconnect with cursor"
  return h.changes[position]?

/-- A connection: what is still to be sent of the snapshot, the cursor up to which records were
sent, the place in the channel, the messages on their way, and why the relay closed it. -/
structure Connection where
  todo : List ServerMessage
  sent : Cursor
  position : ℕ
  wire : List ServerMessage
  closed : Option String

/-- The answer to a subscription: a snapshot, and a place in the channel. -/
def subscription (h : Hub) (profile : Bytes) (cursor : Option Cursor) :
    Except String Connection := do
  let events ← h.store.replay cursor
  rejectIf (profile ≠ h.store.profile.id) "profile mismatch"
  let head : Cursor := ⟨h.store.stream, h.store.head⟩
  return {
    todo := .begin profile head.stream ((cursor.map (·.seq)).getD 0) head.seq ::
      (events.map .event ++ [.caughtUp head])
    sent := head
    position := h.changes.length
    wire := []
    closed := none }

namespace Connection

/-- Put a message on its way. -/
def push (c : Connection) (m : ServerMessage) : Connection := { c with wire := c.wire ++ [m] }

/-- Take a message of the channel and send it. -/
def live (c : Connection) (h : Hub) : Except String Connection := do
  match ← h.recv c.position with
  | none => return c
  | some (.error ()) => throw "journal unavailable"
  | some (.ok e) =>
    rejectIf (e.seq ≠ c.sent.seq + 1) "live stream gap"
    return { c with sent.seq := e.seq, position := c.position + 1 }.push (.event e)

/-- Send the cursor up to which records were sent. -/
def beat (c : Connection) (h : Hub) : Except String Connection := do
  rejectIf (h.store.failed = true) "journal unavailable"
  return c.push (.heartbeat c.sent)

/-- Answer a publication by the client. -/
def answer (c : Connection) : Except String (PublishStatus × ℕ) → Connection
  | .ok (status, seq) => c.push (.published seq status)
  | .error e => { c with closed := some e }

/-- The relay sends messages after the snapshot. -/
def IsLive (c : Connection) : Prop := c.todo = [] ∧ c.closed = none

end Connection

end Relay

/-! ### A relay with its clients -/

/-- A client. -/
structure Client where
  tracker : Tracker
  conn : Option Connection
  /-- The records that it accepted, over all its connections. -/
  accepted : List Event
  /-- The last record of the last snapshot. -/
  highWater : ℕ
  /-- Why the relay refused a subscription or gave it up, or the client refused a message. -/
  refused : List String

/-- What happens between a relay and a client: it subscribes; the relay sends a message of the
snapshot, a change of the journal or a heartbeat, or closes the connection for a fault of the
client; a message arrives, or the reason for closing; or the connection is lost, with all that is
on its way. -/
inductive ClientOp where
  | subscribe
  | send
  | live
  | heartbeat
  | close (reason : String)
  | deliver
  | deliverError
  | disconnect

namespace Client

variable (K : PreconfCrypto) (v : ValidatedProfile)

/-- The relay continues with a connection, or gives it up. -/
def proceed (c : Client) (conn : Connection) : Except String Connection → Client
  | .ok conn' => { c with conn := some conn' }
  | .error e => { c with
      conn := some { conn with closed := some e }, refused := c.refused ++ [e] }

/-- Asks for the records after the cursor. -/
def subscribe (c : Client) (h : Hub) : Client :=
  match subscription h v.id c.tracker.cursor with
  | .ok conn => { c with conn := some conn, highWater := h.store.head }
  | .error e => { c with
      tracker := (c.tracker.process K v (.error e)).1, refused := c.refused ++ [e] }

/-- Takes the next message. -/
def deliver (c : Client) (conn : Connection) (m : ServerMessage) (rest : List ServerMessage) :
    Client :=
  match c.tracker.process K v m with
  | (tracker, .ok _) => { c with
      tracker := tracker, accepted := c.accepted ++ m.events
      conn := some { conn with wire := rest } }
  | (tracker, .error e) => { c with
      tracker := tracker, conn := none, refused := c.refused ++ [e] }

/-- The connection is lost. -/
def disconnect (c : Client) : Client :=
  { c with conn := none, tracker := c.tracker.disconnected }

end Client

section Step

variable (K : PreconfCrypto) (v : ValidatedProfile)

/-- The steps between a relay and a client. -/
def ClientStep (h : Hub) (c : Client) : ClientOp → Client → Prop
  | .subscribe, c' => c.conn = none ∧ c' = c.subscribe K v h
  | .send, c' => ∃ conn m rest, c.conn = some conn ∧ conn.todo = m :: rest ∧
      c' = { c with conn := some ({ conn with todo := rest }.push m) }
  | .live, c' => ∃ conn, c.conn = some conn ∧ conn.IsLive ∧ c' = c.proceed conn (conn.live h)
  | .heartbeat, c' => ∃ conn, c.conn = some conn ∧ conn.IsLive ∧ c' = c.proceed conn (conn.beat h)
  | .close reason, c' => ∃ conn, c.conn = some conn ∧ conn.IsLive ∧
      c' = { c with conn := some { conn with closed := some reason } }
  | .deliver, c' => ∃ conn m rest, c.conn = some conn ∧ conn.wire = m :: rest ∧
      c' = c.deliver K v conn m rest
  | .deliverError, c' => ∃ conn reason, c.conn = some conn ∧ conn.wire = [] ∧
      conn.closed = some reason ∧
      c' = { c with conn := none, tracker := (c.tracker.process K v (.error reason)).1 }
  | .disconnect, c' => c' = c.disconnect

/-- A relay and its clients. -/
structure HubSystem (ι : Type) where
  hub : Hub
  clients : ι → Client

/-- Someone publishes a promise; a client publishes one over its connection; or something happens
between the relay and a client. -/
inductive HubOp (ι : Type) where
  | publish (written : Bool) (r : Receipt)
  | request (i : ι) (written : Bool) (r : Receipt)
  | client (i : ι) (op : ClientOp)

variable {ι : Type} [DecidableEq ι]

/-- The steps of a relay and its clients. -/
def HubStep (s : HubSystem ι) : HubOp ι → HubSystem ι → Prop
  | .publish written r, t => t = { s with hub := (s.hub.publish K written r).1 }
  | .request i written r, t => ∃ conn, (s.clients i).conn = some conn ∧ conn.IsLive ∧
      t = { hub := (s.hub.publish K written r).1
            clients := Function.update s.clients i { s.clients i with
              conn := some (conn.answer (s.hub.publish K written r).2) } }
  | .client i op, t => ∃ c, ClientStep K v s.hub (s.clients i) op c ∧
      t = { s with clients := Function.update s.clients i c }

end Step

/-! ### What the client accepts -/

variable {stream : Bytes} {m : ServerMessage} {receipt : Option Receipt} {ms : List ServerMessage}
  {e : Event} {s : Store}

section Follow

variable {K : PreconfCrypto} {v : ValidatedProfile} {events : List Event} {t t' : Tracker}

/-- A client that is caught up has the records of the snapshot. -/
def Tracker.Synced (t : Tracker) : Prop :=
  t.caughtUp = true → ∃ n, t.through = some n ∧ n ≤ t.seq

/-- What messages with some records do to a client that accepts them. -/
structure Advances (t : Tracker) (events : List Event) (t' : Tracker) : Prop where
  seq : t'.seq = t.seq + events.length
  stream : ∀ c, t.cursor = some c → ∃ c', t'.cursor = some c' ∧ c'.stream = c.stream
  through : ∀ n, t.through = some n → t'.through = some n
  synced : t.Synced → t'.Synced

theorem Advances.refl (t : Tracker) : Advances t [] t :=
  ⟨rfl, fun c hc => ⟨c, hc, rfl⟩, fun _ h => h, fun h => h⟩

theorem Advances.trans {t'' : Tracker} {events' : List Event} (h : Advances t events t')
    (h' : Advances t' events' t'') : Advances t (events ++ events') t'' := by
  refine ⟨?_, fun c hc => ?_, fun n hn => h'.through n (h.through n hn),
    fun hs => h'.synced (h.synced hs)⟩
  · rw [h'.seq, h.seq, List.length_append, add_assoc]
  · obtain ⟨c', hc', hstream'⟩ := h.stream c hc
    obtain ⟨c'', hc'', hstream''⟩ := h'.stream c' hc'
    exact ⟨c'', hc'', hstream''.trans hstream'⟩

theorem Tracker.checkStart_eq_ok {cursor : Option Cursor} {start : ℕ} {u : Unit} :
    Tracker.checkStart cursor stream start = .ok u ↔
      (cursor.map (·.seq)).getD 0 = start ∧ ∀ c, cursor = some c → c.stream = stream := by
  cases cursor with
  | none => simp [checkStart, eq_comm (a := 0)]
  | some c => simp [checkStart, and_comm]

/-- **What a message does that is accepted.** -/
theorem Tracker.processInner_advances (h : t.processInner K v m = .ok (t', receipt)) :
    Advances t m.events t' := by
  cases m with
  | begin profile stream start through =>
    simp only [processInner, bind_eq_ok, rejectIf_eq_ok, pure_eq_ok, Prod.mk.injEq,
      checkStart_eq_ok] at h
    obtain ⟨-, hguard, -, ⟨hseq, hstream⟩, rfl, -⟩ := h
    have hnone : t.through = none := not_not.1 (not_or.1 hguard).1
    refine ⟨hseq.symm, fun c hc => ⟨_, rfl, (hstream c hc).symm⟩, ?_,
      fun _ hfalse => absurd hfalse Bool.false_ne_true⟩
    simp [hnone]
  | event e =>
    simp only [processInner, bind_eq_ok, orReject_eq_ok, rejectIf_eq_ok, pure_eq_ok,
      Prod.mk.injEq] at h
    obtain ⟨c, hc, -, hguard, -, -, -, -, rfl, -⟩ := h
    have hseq : e.seq = c.seq + 1 := not_not.1 (not_or.1 (not_or.1 hguard).2).1
    have hold : t.seq = c.seq := by simp [Tracker.seq, hc]
    refine ⟨?_, fun d hd => ⟨_, rfl, ?_⟩, fun _ hn => hn, fun hs hcaught => ?_⟩
    · rw [hold]
      exact hseq
    · rw [Option.some.inj (hd.symm.trans hc)]
    · obtain ⟨n, hn, hle⟩ := hs hcaught
      refine ⟨n, hn, hle.trans ?_⟩
      rw [hold]
      exact (Nat.le_succ _).trans hseq.ge
  | caughtUp cursor =>
    simp only [processInner, bind_eq_ok, rejectIf_eq_ok, pure_eq_ok, Prod.mk.injEq] at h
    obtain ⟨-, hguard, rfl, -⟩ := h
    obtain ⟨-, hcursor, hthrough⟩ :
        ¬t.caughtUp = true ∧ t.cursor = some cursor ∧ t.through = some cursor.seq := by
      simpa only [not_or, not_not] using hguard
    refine ⟨rfl, fun c hc => ⟨c, hc, rfl⟩, fun _ hn => hn, fun _ _ => ⟨_, hthrough, ?_⟩⟩
    simp [Tracker.seq, hcursor]
  | heartbeat cursor =>
    simp only [processInner, bind_eq_ok, rejectIf_eq_ok, pure_eq_ok, Prod.mk.injEq] at h
    obtain ⟨-, -, rfl, -⟩ := h
    exact .refl t
  | published seq status =>
    simp only [processInner, pure_eq_ok, Prod.mk.injEq] at h
    obtain ⟨rfl, -⟩ := h
    exact .refl t
  | error reason => exact absurd h throw_ne_ok

/-- Process messages one after the other: the client afterwards, and the records. -/
def follow (K : PreconfCrypto) (v : ValidatedProfile) :
    Tracker → List ServerMessage → Except String (Tracker × List Event)
  | t, [] => .ok (t, [])
  | t, m :: ms => do
    let (t', _) ← t.processInner K v m
    let (t'', events) ← follow K v t' ms
    return (t'', m.events ++ events)

theorem follow_cons_eq_ok :
    follow K v t (m :: ms) = .ok (t', events) ↔ ∃ mid receipt rest,
      t.processInner K v m = .ok (mid, receipt) ∧ follow K v mid ms = .ok (t', rest) ∧
        events = m.events ++ rest := by
  simp only [follow, bind_eq_ok, pure_eq_ok, Prod.mk.injEq, Prod.exists]
  constructor
  · rintro ⟨mid, receipt, hm, t'', rest, hms, rfl, rfl⟩
    exact ⟨mid, receipt, rest, hm, hms, rfl⟩
  · rintro ⟨mid, receipt, rest, hm, hms, rfl⟩
    exact ⟨mid, receipt, hm, t', rest, hms, rfl, rfl⟩

theorem follow_append {ms' : List ServerMessage} {t'' : Tracker} {events' : List Event}
    (h : follow K v t ms = .ok (t', events)) (h' : follow K v t' ms' = .ok (t'', events')) :
    follow K v t (ms ++ ms') = .ok (t'', events ++ events') := by
  induction ms generalizing t events with
  | nil =>
    obtain ⟨rfl, rfl⟩ : t = t' ∧ [] = events := by simpa [follow] using h
    exact h'
  | cons m ms ih =>
    obtain ⟨mid, receipt, rest, hm, hms, rfl⟩ := follow_cons_eq_ok.1 h
    exact follow_cons_eq_ok.2 ⟨mid, receipt, _, hm, ih hms, by rw [List.append_assoc]⟩

theorem follow_singleton (h : t.processInner K v m = .ok (t', receipt)) :
    follow K v t [m] = .ok (t', m.events) :=
  follow_cons_eq_ok.2 ⟨t', receipt, [], h, rfl, by simp⟩

theorem follow_advances (h : follow K v t ms = .ok (t', events)) : Advances t events t' := by
  induction ms generalizing t events with
  | nil =>
    obtain ⟨rfl, rfl⟩ : t = t' ∧ [] = events := by simpa [follow] using h
    exact .refl t
  | cons m ms ih =>
    obtain ⟨mid, receipt, rest, hm, hms, rfl⟩ := follow_cons_eq_ok.1 h
    exact (Tracker.processInner_advances hm).trans (ih hms)

theorem Recorded.checkConflict (h : Recorded K v events) (he : e ∈ events) :
    Tracker.checkConflict K v e.receipt e.conflictWith = .ok () := by
  have hmem : e ∈ events.filter fun d => d.receipt.bond = e.receipt.bond :=
    List.mem_filter.2 ⟨he, by simp⟩
  have hof : ∀ d ∈ events.filter fun d => d.receipt.bond = e.receipt.bond,
      v.verify K d.receipt = .ok () ∧ d.receipt.bond = e.receipt.bond := fun d hd =>
    ⟨h.verified d (List.mem_filter.1 hd).1, by simpa using (List.mem_filter.1 hd).2⟩
  have hbonds := h.bonds e.receipt.bond
  generalize (events.filter fun d => d.receipt.bond = e.receipt.bond) = l at hmem hof hbonds
  have hfirst : e.conflictWith = none →
      Tracker.checkConflict K v e.receipt e.conflictWith = .ok () := by
    intro hnone
    rw [hnone]
    rfl
  cases hbonds with
  | none => cases hmem
  | one hnone =>
    obtain rfl := List.mem_singleton.1 hmem
    exact hfirst hnone
  | @two first second hnone hconflict hne =>
    simp only [List.mem_cons, List.not_mem_nil, or_false] at hmem
    obtain rfl | rfl := hmem
    · exact hfirst hnone
    · obtain ⟨hverify, hbond⟩ := hof first (by simp)
      rw [hconflict, Tracker.checkConflict, hverify]
      exact rejectIf_of_not (not_or.2 ⟨not_not.2 hbond, hne⟩)

/-- **The next record of a journal is accepted.** -/
theorem Recorded.processInner_event (h : Recorded K v events) {i through : ℕ} {caughtUp : Bool}
    (he : events[i]? = some e) (hthrough : caughtUp = true ∨ i + 1 ≤ through) :
    Tracker.processInner K v ⟨some ⟨stream, i⟩, caughtUp, some through⟩ (.event e) =
      .ok (⟨some ⟨stream, i + 1⟩, caughtUp, some through⟩, some e.receipt) := by
  have hmem := List.mem_of_getElem? he
  have hseq := h.seq i e he
  have hlt := (List.getElem?_eq_some_iff.1 he).1
  have hlength := h.length_le
  have hguard : ¬((some through : Option ℕ) = none ∨ e.seq ≠ i + 1 ∨
      v.bonds.length * 2 < e.seq ∨ (caughtUp = false ∧ (some through).getD 0 < e.seq)) := by
    rw [hseq]
    rintro (hnone | hne | hmax | ⟨hfalse, hlate⟩)
    · cases hnone
    · exact hne rfl
    · omega
    · obtain htrue | hle := hthrough
      · rw [htrue] at hfalse
        cases hfalse
      · exact absurd hlate (not_lt.2 hle)
  simp only [Tracker.processInner, bind_eq_ok, orReject_eq_ok]
  refine ⟨_, rfl, (), rejectIf_of_not hguard, (), h.verified e hmem, (), h.checkConflict hmem, ?_⟩
  rw [hseq]
  rfl

theorem Recorded.follow_drop (h : Recorded K v events) {start : ℕ}
    (hstart : start ≤ events.length) :
    follow K v ⟨some ⟨stream, start⟩, false, some events.length⟩
      ((events.drop start).map .event) =
        .ok (⟨some ⟨stream, events.length⟩, false, some events.length⟩, events.drop start) := by
  -- on the number of records that are left
  induction hk : events.length - start generalizing start with
  | zero =>
    obtain rfl : start = events.length := by omega
    simp [follow]
  | succ k ih =>
    have hlt : start < events.length := by omega
    rw [List.drop_eq_getElem_cons hlt, List.map_cons]
    exact follow_cons_eq_ok.2 ⟨_, _, _,
      h.processInner_event (List.getElem?_eq_getElem hlt) (.inr hlt), ih hlt (by omega), rfl⟩

end Follow

/-! ### What a publication does -/

section Publish

variable {K : PreconfCrypto} {v : ValidatedProfile} {s : Store} {r : Receipt} {written : Bool}

/-- A store whose records are in order, whether or not it failed. -/
def Intact (K : PreconfCrypto) (v : ValidatedProfile) (s : Store) : Prop :=
  Good K v { s with failed := false }

theorem Good.intact (h : Good K v s) : Intact K v s := by
  have hs : ({ s with failed := false } : Store) = s := by rw [← h.failed]
  rw [Intact, hs]
  exact h

theorem Intact.good (h : Intact K v s) (hfailed : s.failed = false) : Good K v s := by
  have hs : ({ s with failed := false } : Store) = s := by rw [← hfailed]
  rw [Intact, hs] at h
  exact h

theorem Store.publishWith_of_error {e : String} (h : s.prepare K r = .error e) :
    s.publishWith K written r = (s, .error e) := by
  simp only [publishWith, publish, h]

/-- **What publishing does to a store**: nothing, it fails, or there is one more record. -/
theorem Intact.publishWith (h : Intact K v s) (hv : v.Valid) (written : Bool) (r : Receipt) :
    (∃ e, s.publishWith K written r = (s, .error e)) ∨
      (∃ answer, s.publishWith K written r = (s, .ok (none, answer)) ∧ Covered s.events r) ∨
      (∃ e, s.publishWith K written r = ({ s with failed := true }, .error e)) ∨
      ∃ e answer journal, s.failed = false ∧ s.publishWith K written r =
          ({ s with journal := journal, events := s.events ++ [e] }, .ok (some e, answer)) ∧
        Intact K v { s with journal := journal, events := s.events ++ [e] } ∧
        Covered (s.events ++ [e]) r := by
  obtain hfailed | hfailed := Bool.eq_false_or_eq_true s.failed
  · refine .inl ⟨"journal unavailable", Store.publishWith_of_error ?_⟩
    rw [Store.prepare, hfailed]
    rfl
  · have hgood := h.good hfailed
    cases hprepare : s.prepare K r with
    | error e => exact .inl ⟨e, Store.publishWith_of_error hprepare⟩
    | ok found =>
      obtain ⟨event, answer⟩ := found
      have hbase := hprepare
      rw [hgood.prepare] at hbase
      obtain ⟨hverify, -⟩ := Store.prepare_base_eq_ok hbase
      obtain ⟨-, -, -, hcovered⟩ := hgood.publish_good hv r
      cases event with
      | none =>
        have hpublish : s.publish K r = (s, .ok (none, answer)) := by
          simp only [Store.publish, hprepare]
        rw [hpublish] at hcovered
        refine .inr (.inl ⟨answer, ?_, hcovered hverify⟩)
        simp only [Store.publishWith, hprepare, hpublish]
      | some e =>
        cases written with
        | false =>
          refine .inr (.inr (.inl ⟨"journal write failed; monitoring disabled", ?_⟩))
          simp only [Store.publishWith, hprepare]
        | true =>
          obtain ⟨answer', hsame, -⟩ | ⟨e', answer', hprepare', hpublish⟩ := hgood.publish hv r
          · -- the store has one more record, so it is not the same
            have hlength := congrArg (fun x => x.1.events.length) hsame
            simp only [Store.publish, hprepare] at hlength
            cases happend : append s.journal e.encode with
            | error e =>
              have hfail := congrArg (fun x => x.1.failed) hsame
              simp [Store.publish, hprepare, happend, hfailed] at hfail
            | ok journal => simp [happend] at hlength
          · obtain ⟨hgood', -, -, -⟩ := hgood.publish_good hv r
            rw [hpublish] at hgood' hcovered
            refine .inr (.inr (.inr ⟨e', answer', _, hfailed, ?_, hgood'.intact, hcovered hverify⟩))
            rw [← hpublish]
            simp only [Store.publishWith, hprepare]

/-- A relay whose listeners were told of all records after the first `base`. -/
structure HubState (K : PreconfCrypto) (v : ValidatedProfile) (base : ℕ) (h : Hub) : Prop where
  intact : Intact K v h.store
  base_le : base ≤ h.store.events.length
  changes : ∃ k, h.changes =
      (h.store.events.drop base).map .ok ++ List.replicate k (.error ()) ∧
    (h.store.failed = false → k = 0)

/-- A store later on. -/
structure Grows (s s' : Store) : Prop where
  events : s.events <+: s'.events
  stream : s'.stream = s.stream
  failed : s'.failed = false → s.failed = false

theorem Grows.refl (s : Store) : Grows s s := ⟨List.prefix_rfl, rfl, fun hf => hf⟩

/-- **A publication keeps a relay in order**, and when it succeeds the promise is covered. -/
theorem HubState.publish {base : ℕ} {h : Hub} (hs : HubState K v base h) (hv : v.Valid)
    (written : Bool) (r : Receipt) :
    HubState K v base (h.publish K written r).1 ∧
      Grows h.store (h.publish K written r).1.store ∧
      ∀ answer, (h.publish K written r).2 = .ok answer →
        Covered (h.publish K written r).1.store.events r := by
  obtain ⟨k, hchanges, hk⟩ := hs.changes
  obtain ⟨e, hp⟩ | ⟨answer, hp, hcovered⟩ | ⟨e, hp⟩ |
    ⟨e, answer, journal, hf, hp, hint, hcovered⟩ := hs.intact.publishWith hv written r
  all_goals simp only [Hub.publish, hp]
  · refine ⟨⟨hs.intact, hs.base_le, ?_⟩, .refl _, nofun⟩
    split_ifs with hfailed
    · refine ⟨k + 1, ?_, fun hfalse => ?_⟩
      · rw [hchanges, List.replicate_succ', List.append_assoc]
      · rw [hfailed] at hfalse
        cases hfalse
    · exact ⟨k, hchanges, hk⟩
  · refine ⟨⟨hs.intact, hs.base_le, k, ?_, hk⟩, .refl _, fun _ _ => hcovered⟩
    simpa using hchanges
  · refine ⟨⟨hs.intact, hs.base_le, k + 1, ?_, nofun⟩, ⟨List.prefix_rfl, rfl, nofun⟩, nofun⟩
    simp only [if_true, hchanges, List.replicate_succ', List.append_assoc]
  · have hbase := hs.base_le
    refine ⟨⟨hint, ?_, 0, ?_, fun _ => rfl⟩, ⟨List.prefix_append _ _, rfl, fun _ => hf⟩,
      fun _ _ => hcovered⟩
    · simp only [List.length_append]
      omega
    · simp [hchanges, hk hf, List.drop_append_of_le_length hbase]

end Publish

/-! ### What is known of a client -/

section Clients

variable {K : PreconfCrypto} {v : ValidatedProfile} {base : ℕ} {h h' : Hub} {c c' : Client}
  {conn : Connection}

/-- Everything that is sent over a connection will be accepted, and brings the client to the last
record that was sent. -/
structure Pending (K : PreconfCrypto) (v : ValidatedProfile) (base : ℕ) (h : Hub) (c : Client)
    (conn : Connection) : Prop where
  /-- The client will accept what is on its way. -/
  accepts : ∃ events, follow K v c.tracker (conn.wire ++ conn.todo) =
      .ok (⟨some conn.sent, true, some c.highWater⟩, events) ∧
    c.accepted ++ events = h.store.events.take conn.sent.seq
  stream : conn.sent.stream = h.store.stream
  seq_le : conn.sent.seq ≤ h.store.events.length
  position : base + conn.position = conn.sent.seq

/-- What is known of a client of a relay. -/
structure Following (K : PreconfCrypto) (v : ValidatedProfile) (base : ℕ) (h : Hub) (c : Client) :
    Prop where
  cursor : ∀ cursor, c.tracker.cursor = some cursor →
    cursor.stream = h.store.stream ∧ cursor.seq ≤ h.store.events.length
  /-- It has the records up to its cursor. -/
  accepted : c.accepted = h.store.events.take c.tracker.seq
  synced : c.tracker.Synced
  idle : c.conn = none → c.tracker.caughtUp = false ∧ c.tracker.through = none
  /-- Nothing was refused while the journal works. -/
  refused : h.store.failed = false → c.refused = []
  pending : ∀ conn, c.conn = some conn → Pending K v base h c conn

theorem Following.seq_le (hc : Following K v base h c) :
    c.tracker.seq ≤ h.store.events.length := by
  cases hcursor : c.tracker.cursor with
  | none => simp [Tracker.seq, hcursor]
  | some cursor => simpa [Tracker.seq, hcursor] using (hc.cursor cursor hcursor).2

theorem Following.length_accepted (hc : Following K v base h c) :
    c.accepted.length = c.tracker.seq := by
  rw [hc.accepted, List.length_take, min_eq_left hc.seq_le]

theorem Pending.grows (hp : Pending K v base h c conn) (hg : Grows h.store h'.store) :
    Pending K v base h' c conn := by
  obtain ⟨events, hfollow, haccepted⟩ := hp.accepts
  refine ⟨⟨events, hfollow, ?_⟩, hp.stream.trans hg.stream.symm,
    hp.seq_le.trans hg.events.length_le, hp.position⟩
  rw [haccepted, Lists.take_of_prefix hg.events hp.seq_le]

theorem Following.grows (hc : Following K v base h c) (hg : Grows h.store h'.store) :
    Following K v base h' c := by
  refine ⟨fun cursor hcursor => ?_, ?_, hc.synced, hc.idle,
    fun hf => hc.refused (hg.failed hf), fun conn hconn => (hc.pending conn hconn).grows hg⟩
  · obtain ⟨hstream, hle⟩ := hc.cursor cursor hcursor
    exact ⟨hstream.trans hg.stream.symm, hle.trans hg.events.length_le⟩
  · rw [hc.accepted, Lists.take_of_prefix hg.events hc.seq_le]

theorem Following.disconnected (hc : Following K v base h c) : Following K v base h c.disconnect :=
  ⟨hc.cursor, hc.accepted, fun hfalse => (nomatch hfalse), fun _ => ⟨rfl, rfl⟩, hc.refused,
    fun _ hconn => (nomatch hconn)⟩

theorem Following.with_conn (hc : Following K v base h c)
    (hp : Pending K v base h c conn) : Following K v base h { c with conn := some conn } := by
  refine ⟨hc.cursor, hc.accepted, hc.synced, fun hnone => (nomatch hnone), hc.refused, ?_⟩
  rintro _ ⟨⟩
  exact ⟨hp.accepts, hp.stream, hp.seq_le, hp.position⟩

theorem Pending.push (hp : Pending K v base h c conn) (htodo : conn.todo = []) (hm : m.events = [])
    (haccept : Tracker.processInner K v ⟨some conn.sent, true, some c.highWater⟩ m =
      .ok (⟨some conn.sent, true, some c.highWater⟩, receipt)) :
    Pending K v base h c (conn.push m) := by
  obtain ⟨events, hfollow, haccepted⟩ := hp.accepts
  refine ⟨⟨events, ?_, haccepted⟩, hp.stream, hp.seq_le, hp.position⟩
  rw [htodo, List.append_nil] at hfollow
  have hall := follow_append hfollow (follow_singleton haccept)
  rw [hm, List.append_nil] at hall
  simpa [Connection.push, htodo] using hall

/-- The relay gives a connection up only when its journal failed. -/
theorem Following.give_up (hc : Following K v base h c) (hp : Pending K v base h c conn)
    (hfailed : h.store.failed = true) (e : String) :
    Following K v base h { c with
      conn := some { conn with closed := some e }, refused := c.refused ++ [e] } := by
  refine ⟨hc.cursor, hc.accepted, hc.synced, fun hnone => (nomatch hnone), fun hf => ?_, ?_⟩
  · rw [hfailed] at hf
    cases hf
  · rintro _ ⟨⟩
    exact ⟨hp.accepts, hp.stream, hp.seq_le, hp.position⟩

/-! #### Subscribing -/

theorem HubState.subscription (hs : HubState K v base h) (hfailed : h.store.failed = false)
    {t : Tracker} (hcursor : ∀ cursor, t.cursor = some cursor →
      cursor.stream = h.store.stream ∧ cursor.seq ≤ h.store.events.length) :
    subscription h v.id t.cursor = .ok {
      todo := .begin v.id h.store.stream t.seq h.store.events.length ::
        ((h.store.events.drop t.seq).map .event ++
          [.caughtUp ⟨h.store.stream, h.store.events.length⟩])
      sent := ⟨h.store.stream, h.store.events.length⟩
      position := h.changes.length
      wire := []
      closed := none } := by
  have hprofile : h.store.profile = v := (hs.intact.good hfailed).profile
  have hreplay : h.store.replay t.cursor = .ok (h.store.events.drop t.seq) := by
    have hwell : ¬h.store.failed = true := by simp [hfailed]
    cases hcase : t.cursor with
    | none =>
      simp only [Store.replay, bind_eq_ok, Tracker.seq, hcase]
      exact ⟨(), rejectIf_of_not hwell, rfl⟩
    | some cursor =>
      obtain ⟨hstream, hle⟩ := hcursor cursor hcase
      simp only [Store.replay, bind_eq_ok, Tracker.seq, hcase]
      exact ⟨(), rejectIf_of_not hwell, (),
        rejectIf_of_not (not_or.2 ⟨not_not.2 hstream, not_lt.2 hle⟩), rfl⟩
  simp only [Relay.subscription, bind_eq_ok]
  refine ⟨_, hreplay, (), rejectIf_of_not ?_, rfl⟩
  rw [hprofile]
  exact not_not.2 rfl

theorem subscription_of_failed (hfailed : h.store.failed = true) (cursor : Option Cursor) :
    subscription h v.id cursor = .error "journal unavailable" := by
  simp only [subscription, Store.replay, hfailed]
  rfl

/-- **A snapshot is accepted** by a client that was at the cursor. -/
theorem HubState.follow_snapshot (hs : HubState K v base h) {t : Tracker}
    (hthrough : t.through = none) (hle : t.seq ≤ h.store.events.length)
    (hstream : ∀ cursor, t.cursor = some cursor → cursor.stream = h.store.stream) :
    follow K v t (.begin v.id h.store.stream t.seq h.store.events.length ::
      ((h.store.events.drop t.seq).map .event ++
        [.caughtUp ⟨h.store.stream, h.store.events.length⟩])) =
      .ok (⟨some ⟨h.store.stream, h.store.events.length⟩, true, some h.store.events.length⟩,
        h.store.events.drop t.seq) := by
  have hrecorded : Recorded K v h.store.events := hs.intact.recorded
  obtain ⟨id, hid⟩ : ∃ id : Uint256, h.store.stream = writeHex id.data := hs.intact.stream
  have hlength := hrecorded.length_le
  have hbegin : t.processInner K v
      (.begin v.id h.store.stream t.seq h.store.events.length) =
        .ok (⟨some ⟨h.store.stream, t.seq⟩, false, some h.store.events.length⟩, none) := by
    simp only [Tracker.processInner, bind_eq_ok]
    refine ⟨(), rejectIf_of_not ?_, (), Tracker.checkStart_eq_ok.2 ⟨rfl, hstream⟩, rfl⟩
    rw [hthrough, hid, length_writeHex, readHex_writeHex, id.size_data]
    rintro (hne | hne | hlt | hlt | hne | hne)
    · exact hne rfl
    · exact hne rfl
    · omega
    · omega
    · exact hne rfl
    · cases hne
  have hend : Tracker.processInner K v
      ⟨some ⟨h.store.stream, h.store.events.length⟩, false, some h.store.events.length⟩
      (.caughtUp ⟨h.store.stream, h.store.events.length⟩) =
        .ok (⟨some ⟨h.store.stream, h.store.events.length⟩, true,
          some h.store.events.length⟩, none) := by
    simp only [Tracker.processInner, bind_eq_ok]
    exact ⟨(), rejectIf_of_not (by simp), rfl⟩
  refine follow_cons_eq_ok.2 ⟨_, _, _, hbegin,
    follow_append (hrecorded.follow_drop hle) (follow_singleton hend), ?_⟩
  simp [ServerMessage.events]

theorem Following.subscribe (hs : HubState K v base h) (hc : Following K v base h c)
    (hnone : c.conn = none) : Following K v base h (c.subscribe K v h) := by
  obtain hfailed | hfailed := Bool.eq_false_or_eq_true h.store.failed
  · simp only [Client.subscribe, subscription_of_failed hfailed]
    refine ⟨hc.cursor, hc.accepted, fun hfalse => (nomatch hfalse), fun _ => ⟨rfl, rfl⟩,
      fun hf => ?_, fun conn hconn => ?_⟩
    · rw [hfailed] at hf
      cases hf
    · rw [hnone] at hconn
      cases hconn
  · obtain ⟨hcaught, hthrough⟩ := hc.idle hnone
    obtain ⟨k, hchanges, hk⟩ := hs.changes
    have hbase := hs.base_le
    simp only [Client.subscribe, hs.subscription hfailed hc.cursor]
    refine ⟨hc.cursor, hc.accepted, fun htrue => ?_, fun hn => (nomatch hn), hc.refused, ?_⟩
    · rw [hcaught] at htrue
      cases htrue
    rintro _ ⟨⟩
    refine ⟨⟨h.store.events.drop c.tracker.seq, ?_, ?_⟩, rfl, le_rfl, ?_⟩
    · exact hs.follow_snapshot hthrough hc.seq_le fun cursor hcursor => (hc.cursor cursor hcursor).1
    · simp only [hc.accepted, List.take_append_drop, List.take_length]
    · simp only [hchanges, hk hfailed, List.replicate_zero, List.append_nil, List.length_map,
        List.length_drop]
      omega

/-! #### New records -/

/-- A record in the channel is the record of the journal at that place. -/
theorem HubState.getElem?_changes (hs : HubState K v base h) {position : ℕ}
    (he : h.changes[position]? = some (.ok e)) : h.store.events[base + position]? = some e := by
  obtain ⟨k, hchanges, -⟩ := hs.changes
  rw [hchanges] at he
  obtain hlt | hge := lt_or_ge position ((h.store.events.drop base).map Except.ok).length
  · rw [List.getElem?_append_left hlt, List.getElem?_map, List.getElem?_drop] at he
    cases hevent : h.store.events[base + position]? with
    | none => simp [hevent] at he
    | some d => simpa [hevent] using he
  · -- behind the records there are only notices of the failure
    rw [List.getElem?_append_right hge, List.getElem?_replicate] at he
    split_ifs at he
    cases he

/-- A listener is never further behind than the channel keeps. -/
theorem HubState.lag_le (hs : HubState K v base h) (hv : v.Valid)
    (hfailed : h.store.failed = false) (position : ℕ) :
    h.changes.length - position ≤ CHANNEL_CAPACITY := by
  obtain ⟨k, hchanges, hk⟩ := hs.changes
  have hlength : h.store.events.length ≤ 256 := (hs.intact.good hfailed).length_le hv
  have hcapacity : CHANNEL_CAPACITY = 256 := rfl
  rw [hchanges, hk hfailed, hcapacity]
  simp only [List.replicate_zero, List.append_nil, List.length_map, List.length_drop]
  omega

theorem HubState.recv (hs : HubState K v base h) (hv : v.Valid)
    (hfailed : h.store.failed = false) (position : ℕ) :
    h.recv position = .ok h.changes[position]? := by
  rw [Hub.recv, rejectIf_of_not (not_lt.2 (hs.lag_le hv hfailed position))]
  rfl

/-- There is no notice of a failure in the channel of a relay that did not fail. -/
theorem HubState.changes_ne_error (hs : HubState K v base h) (hfailed : h.store.failed = false)
    (position : ℕ) : h.changes[position]? ≠ some (.error ()) := by
  obtain ⟨k, hchanges, hk⟩ := hs.changes
  rw [hchanges, hk hfailed]
  simp

/-- **A new record is sent and will be accepted.** -/
theorem Pending.live (hs : HubState K v base h) (hp : Pending K v base h c conn)
    (htodo : conn.todo = []) (he : h.changes[conn.position]? = some (.ok e)) :
    e.seq = conn.sent.seq + 1 ∧ Pending K v base h c
      ({ conn with sent.seq := e.seq, position := conn.position + 1 }.push (.event e)) := by
  have hevent := hs.getElem?_changes he
  rw [hp.position] at hevent
  have hrecorded : Recorded K v h.store.events := hs.intact.recorded
  have hseq := hrecorded.seq _ e hevent
  have hlt := (List.getElem?_eq_some_iff.1 hevent).1
  have hposition := hp.position
  obtain ⟨events, hfollow, haccepted⟩ := hp.accepts
  refine ⟨hseq, ⟨events ++ [e], ?_, ?_⟩, hp.stream, ?_, ?_⟩
  · rw [htodo, List.append_nil] at hfollow
    have hnext := follow_append hfollow
      (follow_singleton (hrecorded.processInner_event hevent (.inl rfl)))
    simpa only [Connection.push, htodo, List.append_nil, hseq, ServerMessage.events] using hnext
  · simp only [Connection.push, hseq]
    rw [← List.append_assoc, haccepted, List.take_add_one, hevent]
    rfl
  · simp only [Connection.push, hseq]
    exact hlt
  · simp only [Connection.push, hseq]
    omega

theorem Following.live (hs : HubState K v base h) (hv : v.Valid) (hc : Following K v base h c)
    (hconn : c.conn = some conn) (hlive : conn.IsLive) :
    Following K v base h (c.proceed conn (conn.live h)) := by
  have hp := hc.pending conn hconn
  cases hrecv : h.recv conn.position with
  | error e =>
    obtain hfailed | hfailed := Bool.eq_false_or_eq_true h.store.failed
    · simp only [Connection.live, hrecv]
      exact hc.give_up hp hfailed e
    · rw [hs.recv hv hfailed] at hrecv
      cases hrecv
  | ok change =>
    have hchange : h.changes[conn.position]? = change := by
      simp only [Hub.recv, bind_eq_ok, pure_eq_ok] at hrecv
      obtain ⟨-, -, hchange⟩ := hrecv
      exact hchange
    simp only [Connection.live, hrecv]
    rcases change with _ | (⟨⟨⟩⟩ | e)
    · exact hc.with_conn hp
    · obtain hfailed | hfailed := Bool.eq_false_or_eq_true h.store.failed
      · exact hc.give_up hp hfailed _
      · exact absurd hchange (hs.changes_ne_error hfailed _)
    · obtain ⟨hseq, hnext⟩ := hp.live hs hlive.1 hchange
      change Following K v base h (c.proceed conn (rejectIf (e.seq ≠ conn.sent.seq + 1) _ >>= _))
      rw [rejectIf_of_not (not_not.2 hseq)]
      exact hc.with_conn hnext

theorem Following.beat (hc : Following K v base h c) (hconn : c.conn = some conn)
    (hlive : conn.IsLive) : Following K v base h (c.proceed conn (conn.beat h)) := by
  have hp := hc.pending conn hconn
  obtain hfailed | hfailed := Bool.eq_false_or_eq_true h.store.failed
  · rw [Connection.beat, hfailed]
    exact hc.give_up hp hfailed _
  · rw [Connection.beat, hfailed]
    have haccept : Tracker.processInner K v ⟨some conn.sent, true, some c.highWater⟩
        (.heartbeat conn.sent) = .ok (⟨some conn.sent, true, some c.highWater⟩, none) := by
      simp only [Tracker.processInner, bind_eq_ok]
      exact ⟨(), rejectIf_of_not (by simp), rfl⟩
    exact hc.with_conn (hp.push hlive.1 rfl haccept)

/-! #### A message arrives -/

theorem Pending.processInner (hp : Pending K v base h c conn) {rest : List ServerMessage}
    (hwire : conn.wire = m :: rest) :
    ∃ t receipt events, c.tracker.processInner K v m = .ok (t, receipt) ∧
      follow K v t (rest ++ conn.todo) =
        .ok (⟨some conn.sent, true, some c.highWater⟩, events) ∧
      c.accepted ++ m.events ++ events = h.store.events.take conn.sent.seq := by
  obtain ⟨events, hfollow, haccepted⟩ := hp.accepts
  rw [hwire, List.cons_append] at hfollow
  obtain ⟨t, receipt, later, hm, hrest, rfl⟩ := follow_cons_eq_ok.1 hfollow
  exact ⟨t, receipt, later, hm, hrest, by rw [List.append_assoc, haccepted]⟩

/-- **A message that arrives is accepted.** -/
theorem Following.deliver (hc : Following K v base h c) (hconn : c.conn = some conn)
    {rest : List ServerMessage} (hwire : conn.wire = m :: rest) :
    (∃ t receipt, c.tracker.processInner K v m = .ok (t, receipt) ∧
      c.deliver K v conn m rest = { c with
        tracker := t, accepted := c.accepted ++ m.events
        conn := some { conn with wire := rest } }) ∧
      Following K v base h (c.deliver K v conn m rest) := by
  have hp := hc.pending conn hconn
  obtain ⟨t, receipt, events, hm, hrest, haccepted⟩ := hp.processInner hwire
  have hdeliver : c.deliver K v conn m rest = { c with
      tracker := t, accepted := c.accepted ++ m.events
      conn := some { conn with wire := rest } } := by
    simp only [Client.deliver, Tracker.process, hm]
  refine ⟨⟨t, receipt, hm, hdeliver⟩, ?_⟩
  rw [hdeliver]
  have hfirst := Tracker.processInner_advances hm
  have hlater := follow_advances hrest
  -- the records so far are the first of the journal, and the cursor counts them
  have hlength : (c.accepted ++ m.events).length = t.seq := by
    rw [List.length_append, hc.length_accepted, hfirst.seq]
  have hprefix : c.accepted ++ m.events <+: h.store.events :=
    (List.prefix_append _ events).trans (haccepted ▸ List.take_prefix _ _)
  refine ⟨fun cursor hcursor => ?_, ?_, hfirst.synced hc.synced, fun hnone => (nomatch hnone),
    hc.refused, ?_⟩
  · obtain ⟨last, hlast, hstream⟩ := hlater.stream cursor hcursor
    obtain rfl : conn.sent = last := Option.some.inj hlast
    have hseq : t.seq = cursor.seq := by
      simp [Tracker.seq, show t.cursor = some cursor from hcursor]
    exact ⟨hstream.symm.trans hp.stream, hseq ▸ hlength ▸ hprefix.length_le⟩
  · rw [List.prefix_iff_eq_take] at hprefix
    rw [← hlength]
    exact hprefix
  · rintro _ ⟨⟩
    exact ⟨⟨events, hrest, haccepted⟩, hp.stream, hp.seq_le, hp.position⟩

/-- **Every step keeps what is known of a client.** -/
theorem Following.step (hs : HubState K v base h) (hv : v.Valid) (hc : Following K v base h c)
    {op : ClientOp} (hstep : ClientStep K v h c op c') : Following K v base h c' := by
  cases op with
  | subscribe =>
    obtain ⟨hnone, rfl⟩ := hstep
    exact hc.subscribe hs hnone
  | send =>
    obtain ⟨conn, m, rest, hconn, htodo, rfl⟩ := hstep
    obtain ⟨haccepts, hstream, hle, hposition⟩ := hc.pending conn hconn
    refine hc.with_conn ⟨?_, hstream, hle, hposition⟩
    simpa [Connection.push, htodo] using haccepts
  | live =>
    obtain ⟨conn, hconn, hlive, rfl⟩ := hstep
    exact hc.live hs hv hconn hlive
  | heartbeat =>
    obtain ⟨conn, hconn, hlive, rfl⟩ := hstep
    exact hc.beat hconn hlive
  | close reason =>
    obtain ⟨conn, hconn, -, rfl⟩ := hstep
    obtain ⟨haccepts, hstream, hle, hposition⟩ := hc.pending conn hconn
    exact hc.with_conn ⟨haccepts, hstream, hle, hposition⟩
  | deliver =>
    obtain ⟨conn, m, rest, hconn, hwire, rfl⟩ := hstep
    exact (hc.deliver hconn hwire).2
  | deliverError =>
    obtain ⟨conn, reason, -, -, -, rfl⟩ := hstep
    exact hc.disconnected
  | disconnect =>
    obtain rfl := hstep
    exact hc.disconnected

theorem Following.answer (hc : Following K v base h c) (hconn : c.conn = some conn)
    (hlive : conn.IsLive) (result : Except String (PublishStatus × ℕ)) :
    Following K v base h { c with conn := some (conn.answer result) } := by
  have hp := hc.pending conn hconn
  cases result with
  | error e => exact hc.with_conn ⟨hp.accepts, hp.stream, hp.seq_le, hp.position⟩
  | ok answer => exact hc.with_conn (hp.push hlive.1 rfl rfl)

end Clients

section Runs

variable {K : PreconfCrypto} {v : ValidatedProfile} {base : ℕ} {ι : Type} [DecidableEq ι]

/-- What is known of a relay and its clients. -/
structure SystemState (K : PreconfCrypto) (v : ValidatedProfile) (base : ℕ) (s : HubSystem ι) :
    Prop where
  hub : HubState K v base s.hub
  clients : ∀ i, Following K v base s.hub (s.clients i)

theorem SystemState.step {s t : HubSystem ι} (h : SystemState K v base s) (hv : v.Valid)
    {op : HubOp ι} (hstep : HubStep K v s op t) : SystemState K v base t := by
  cases op with
  | publish written r =>
    obtain rfl := hstep
    obtain ⟨hhub, hgrows, -⟩ := h.hub.publish hv written r
    exact ⟨hhub, fun i => (h.clients i).grows hgrows⟩
  | request i written r =>
    obtain ⟨conn, hconn, hlive, rfl⟩ := hstep
    obtain ⟨hhub, hgrows, -⟩ := h.hub.publish hv written r
    refine ⟨hhub, (Function.forall_update_iff _ _).2 ⟨?_, fun j _ => (h.clients j).grows hgrows⟩⟩
    exact ((h.clients i).grows hgrows).answer hconn hlive _
  | client i op =>
    obtain ⟨c, hclient, rfl⟩ := hstep
    refine ⟨h.hub, (Function.forall_update_iff _ _).2 ⟨?_, fun j _ => h.clients j⟩⟩
    exact (h.clients i).step h.hub hv hclient

/-- A client that is not connected, and that knows the first records of a journal or has not been
connected yet. -/
def Client.start (s : Store) (known : Option ℕ) : Client where
  tracker := { cursor := known.map (⟨s.stream, ·⟩) }
  conn := none
  accepted := s.events.take (known.getD 0)
  highWater := 0
  refused := []

/-- A relay that was just started, with its clients. -/
def HubSystem.start (s : Store) (known : ι → Option ℕ) : HubSystem ι where
  hub := ⟨s, []⟩
  clients i := .start s (known i)

theorem HubState.start (h : Good K v s) : HubState K v s.events.length ⟨s, []⟩ :=
  ⟨h.intact, le_rfl, 0, by simp, fun _ => rfl⟩

theorem Following.start {known : Option ℕ} (hknown : ∀ n ∈ known, n ≤ s.head) :
    Following K v base ⟨s, []⟩ (.start s known) := by
  refine ⟨?_, ?_, fun hfalse => (nomatch hfalse), fun _ => ⟨rfl, rfl⟩, fun _ => rfl,
    fun _ hconn => (nomatch hconn)⟩
  · rintro cursor hcursor
    obtain ⟨n, hn, rfl⟩ := Option.map_eq_some_iff.1 hcursor
    exact ⟨rfl, hknown n hn⟩
  · cases known <;> rfl

omit [DecidableEq ι] in
theorem SystemState.start (h : Good K v s) {known : ι → Option ℕ}
    (hknown : ∀ i, ∀ n ∈ known i, n ≤ s.head) :
    SystemState K v s.events.length (HubSystem.start s known) :=
  ⟨.start h, fun i => .start (hknown i)⟩

end Runs

/-- **A live subscription has no gaps.**  Start a relay on any journal, with any number of clients
that know its first records or none, and let anyone publish, the clients subscribe, be disconnected
and subscribe again, and messages be sent, arrive or be lost, in any order.  Then the records that
a client accepted are the first of the journal, one after the other; when it is caught up, they
include the snapshot's; every message on its way to it is accepted; and while the journal has not
failed, no subscription was refused or given up, no message was refused, and no listener is further
behind than the channel keeps. -/
theorem live_subscription_no_gap (K : PreconfCrypto) (p : Profile) (v : ValidatedProfile)
    (hv : p.validate K = .ok v) (random : Uint256) (opened store : Store)
    (hopen : Store.open K v random [] = .ok opened) (history : List JournalOp)
    (hhistory : Run (JournalStep K v) opened history store) {ι : Type} [DecidableEq ι]
    (known : ι → Option ℕ) (hknown : ∀ i, ∀ n ∈ known i, n ≤ store.head)
    (ops : List (HubOp ι)) (s : HubSystem ι)
    (hrun : Run (HubStep K v) (HubSystem.start store known) ops s) (i : ι) :
    (s.clients i).accepted = s.hub.store.events.take (s.clients i).tracker.seq ∧
      (∀ k e, (s.clients i).accepted[k]? = some e → e.seq = k + 1) ∧
      (s.clients i).tracker.seq = (s.clients i).accepted.length ∧
      ((s.clients i).tracker.caughtUp = true →
        (s.clients i).tracker.through = some (s.clients i).highWater ∧
          (s.clients i).highWater ≤ (s.clients i).accepted.length) ∧
      (∀ conn, (s.clients i).conn = some conn → ∃ events,
        follow K v (s.clients i).tracker (conn.wire ++ conn.todo) =
            .ok (⟨some conn.sent, true, some (s.clients i).highWater⟩, events) ∧
          (s.clients i).accepted ++ events = s.hub.store.events.take conn.sent.seq) ∧
      (s.hub.store.failed = false → (s.clients i).refused = [] ∧
        (∃ conn, subscription s.hub v.id (s.clients i).tracker.cursor = .ok conn) ∧
        ∀ conn, (s.clients i).conn = some conn →
          s.hub.changes.length - conn.position ≤ CHANNEL_CAPACITY) := by
  have hvalid := Profile.validate_valid hv
  have hstore := ((Good.of_open_nil hvalid hopen).run hvalid hhistory).good
  have hstate : SystemState K v store.events.length s :=
    hrun.invariant (.start hstore hknown)
      fun _ _ _ h hstep => h.step hvalid hstep
  have hc := hstate.clients i
  have hrecorded : Recorded K v s.hub.store.events := hstate.hub.intact.recorded
  refine ⟨hc.accepted, fun k e hk => ?_, hc.length_accepted.symm, fun hcaught => ?_,
    fun conn hconn => (hc.pending conn hconn).accepts, fun hfailed => ⟨hc.refused hfailed,
      ⟨_, hstate.hub.subscription hfailed hc.cursor⟩,
      fun conn _ => hstate.hub.lag_le hvalid hfailed conn.position⟩⟩
  · rw [hc.accepted, List.getElem?_take] at hk
    split_ifs at hk
    exact hrecorded.seq k e hk
  · obtain ⟨n, hn, hle⟩ := hc.synced hcaught
    cases hconn : (s.clients i).conn with
    | none =>
      rw [(hc.idle hconn).1] at hcaught
      cases hcaught
    | some conn =>
      obtain ⟨events, hfollow, -⟩ := (hc.pending conn hconn).accepts
      obtain rfl : (s.clients i).highWater = n :=
        Option.some.inj ((follow_advances hfollow).through n hn)
      exact ⟨hn, hc.length_accepted ▸ hle⟩

namespace Sample

/-- A new journal. -/
def openedStore : Store := .fresh validatedProfile (.ofByte 9)

theorem open_openedStore :
    Store.open relayCrypto validatedProfile (.ofByte 9) [] = .ok openedStore :=
  open_nil (Profile.validate_valid validate_relayProfile) _

/-- It holds one promise. -/
def servedStore : Store := (openedStore.publish relayCrypto (relayReceipt 10)).1

/-- A promise is published while the snapshot is sent. -/
def schedule : List (HubOp Unit) :=
  [.client () .subscribe, .client () .send, .publish true (relayReceipt 11), .client () .send,
    .client () .send, .client () .live, .client () .deliver, .client () .deliver,
    .client () .deliver, .client () .deliver]

end Sample

set_option maxRecDepth 8000 in
open Relay.Sample in
/-- A client gets the record of the snapshot, and the one that was published meanwhile. -/
theorem live_subscription_no_gap_sample : ∃ s,
    Run (HubStep relayCrypto validatedProfile)
        (HubSystem.start servedStore fun _ : Unit => none) schedule s ∧
      s.hub.store.failed = false ∧ (s.clients ()).tracker.seq = 2 ∧
      (s.clients ()).tracker.caughtUp = true ∧ (s.clients ()).accepted = s.hub.store.events.take 2 ∧
      (s.clients ()).refused = [] := by
  have hrun : ∃ s, Run (HubStep relayCrypto validatedProfile)
      (HubSystem.start servedStore fun _ : Unit => none) schedule s ∧
        s.hub.store.failed = false ∧ (s.clients ()).tracker.seq = 2 ∧
        (s.clients ()).tracker.caughtUp = true := by
    refine ⟨_, .cons ⟨_, ⟨rfl, rfl⟩, rfl⟩ <| .cons ⟨_, ⟨_, _, _, rfl, rfl, rfl⟩, rfl⟩ <|
      .cons rfl <| .cons ⟨_, ⟨_, _, _, rfl, rfl, rfl⟩, rfl⟩ <|
      .cons ⟨_, ⟨_, _, _, rfl, rfl, rfl⟩, rfl⟩ <| .cons ⟨_, ⟨_, rfl, ⟨rfl, rfl⟩, rfl⟩, rfl⟩ <|
      .cons ⟨_, ⟨_, _, _, rfl, rfl, rfl⟩, rfl⟩ <| .cons ⟨_, ⟨_, _, _, rfl, rfl, rfl⟩, rfl⟩ <|
      .cons ⟨_, ⟨_, _, _, rfl, rfl, rfl⟩, rfl⟩ <| .cons ⟨_, ⟨_, _, _, rfl, rfl, rfl⟩, rfl⟩ .nil,
      ?_, ?_, ?_⟩
    · rfl
    · rfl
    · rfl
  obtain ⟨s, hrun, hfailed, hseq, hcaught⟩ := hrun
  have hhistory : Run (JournalStep relayCrypto validatedProfile) openedStore
      [.publish (relayReceipt 10)] servedStore := Run.singleton_iff.2 rfl
  obtain ⟨haccepted, -, -, -, -, hwell⟩ := live_subscription_no_gap relayCrypto relayProfile
    validatedProfile validate_relayProfile (.ofByte 9) openedStore servedStore open_openedStore _
    hhistory (fun _ => none) (fun _ _ hn => nomatch hn) schedule s hrun ()
  rw [hseq] at haccepted
  exact ⟨s, hrun, hfailed, hseq, hcaught, haccepted, (hwell hfailed).1⟩

end Relay

end ElementsDrivechain
