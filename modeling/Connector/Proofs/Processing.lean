import Connector.Hub
import Connector.Proofs.Sending

/-! A packet within its hub: what the processing leaves, and what is found there afterwards.

* `SessionTable.find?_put`: what a table holds once a connection was put into it;
* `Hub.process_of_found`: the processing of a packet, from what it does to its connection;
* `Hub.session?_keep`: it changes no session but the packet's own. -/

namespace Connector

namespace SessionTable

theorem id_of_find? {t : SessionTable} {id : Nat} {c : Connection} (h : t.find? id = some c) :
    c.id = id := by
  have found := List.find?_some h
  exact beq_iff_eq.mp found

theorem find?_put (t : SessionTable) (c : Connection) (id : Nat) :
    (t.put c).find? id = if id = c.id then (t.find? id).map fun _ => c else t.find? id := by
  have sameIds : ((fun other : Connection => other.id == id) ∘ fun other =>
      if other.id = c.id then c else other) = fun other => other.id == id := by
    funext other
    by_cases h : other.id = c.id
    · rw [Function.comp_apply, if_pos h, h]
    · rw [Function.comp_apply, if_neg h]
  have mapped : (t.put c).find? id =
      (t.find? id).map fun other => if other.id = c.id then c else other := by
    rw [find?, put, List.find?_map, sameIds]
    rfl
  rw [mapped]
  cases found : t.find? id with
  | none => simp only [Option.map_none, ite_self]
  | some other =>
      rw [Option.map_some, Option.map_some, id_of_find? found]
      split
      · rfl
      · rfl

end SessionTable

variable {ε : Type}

namespace Trace

@[simp] theorem calls_log_append (line : Log) (t : Trace ε) : (log line ++ t).calls = t.calls := rfl

@[simp] theorem logs_log_append (line : Log) (t : Trace ε) : (log line ++ t).logs = line :: t.logs := rfl

end Trace

/-! ## Ids -/

namespace Switchboard

theorem id_dispatch (b : Switchboard ε) (s : Session) (route : Route) (body : Bytes) :
    (b.dispatch s route body).1.session.id = s.id := by
  unfold dispatch
  split
  · rfl
  · exact Program.id_run _ s

theorem id_send (b : Switchboard ε) (origin : Origin) (s : Session) (route : Route) (body : Bytes) :
    (b.send origin s route body).session.id = s.id := by
  unfold send
  split
  · exact id_dispatch b s route body
  · rfl

theorem id_of_accept {s accepted : Session} {m : Message} {route : Route}
    (h : accept s m route = .ok accepted) : accepted.id = s.id := by
  unfold accept at h
  repeat' split at h
  all_goals cases h
  all_goals rfl

theorem id_route (b : Switchboard ε) (origin : Origin) (s : Session) (m : Message) :
    (b.route origin s m).session.id = s.id := by
  unfold route
  split
  · rfl
  · split
    · rfl
    · next accepted => exact (id_send ..).trans (id_of_accept accepted)

end Switchboard

namespace Connection

theorem session_moveTo (c : Connection) (next : Status) : (c.moveTo next).1.session = c.session := by
  unfold moveTo
  split
  · rfl
  · rfl

theorem processHandshake_of_closed (board : Switchboard ε) (interval : Nat) {c : Connection}
    (closed : c.status = .closed) : (c.processHandshake board interval).connection = c := by
  rw [processHandshake, handshake, moveTo, if_pos closed]

theorem processHandshake_of_open (board : Switchboard ε) (interval : Nat) {c : Connection}
    (isOpen : c.status ≠ .closed) :
    (c.processHandshake board interval).connection.session =
      (c.session.sendPacket
        ⟨.handshake, Bytes.ofString (handshakeText interval board.registry.dictionary)⟩).1 := by
  have shaken : c.handshake = ({ c with status := .handshaking }, true) := if_neg isOpen
  rw [processHandshake, shaken]
  rcases c.session.sendPacket_cases
      ⟨.handshake, Bytes.ofString (handshakeText interval board.registry.dictionary)⟩ with
    ⟨e, refused⟩ | ⟨octets, -, queued⟩
  · simp only [refused]
  · simp only [queued]

theorem session_processAck (board : Switchboard ε) (c : Connection) :
    (c.processAck board).connection.session = c.session := by
  have moved : c.acknowledge.1.session = c.session := c.session_moveTo .working
  unfold processAck
  split
  all_goals next acknowledged => rwa [acknowledged] at moved

theorem id_processHandshake (board : Switchboard ε) (interval : Nat) (c : Connection) :
    (c.processHandshake board interval).connection.id = c.id := by
  by_cases closed : c.status = .closed
  · rw [processHandshake_of_closed board interval closed]
  · rw [id, processHandshake_of_open board interval closed]
    exact c.session.id_sendPacket _

theorem id_processKind (board : Switchboard ε) (interval now : Nat) (c : Connection) (p : Packet) :
    (c.processKind board interval now p).connection.id = c.id := by
  unfold processKind
  split
  · exact id_processHandshake board interval c
  · exact congrArg Session.id (session_processAck board c)
  · rfl
  · unfold processData
    split
    · rfl
    · exact Switchboard.id_route ..

/-- The line with which the processing of a packet begins. -/
def beginLog (c : Connection) (p : Packet) : Log := .trace s!"session {c.id} processing {p.describe}"

end Connection

namespace Hub

/-- The hub once a packet was processed. -/
def keep (h : Hub ε) (done : Processed ε) : Hub ε :=
  { h with board := done.board, table := h.table.put done.connection }

theorem process_of_found {h : Hub ε} {id : Nat} {c : Connection} (found : h.table.find? id = some c)
    (p : Packet) :
    h.process id p =
      let done := c.processKind h.board h.settings.heartbeat.interval h.now p
      (h.keep done, .log (c.beginLog p) ++ done.trace) := by
  rw [process, found]
  rfl

theorem process_of_unknown {h : Hub ε} {id : Nat} (unknown : h.table.find? id = none) (p : Packet) :
    h.process id p = (h, .empty) := by
  rw [process, unknown]

theorem session?_keep {h : Hub ε} {id : Nat} {c : Connection} (found : h.table.find? id = some c)
    {done : Processed ε} (same : done.connection.id = c.id) (origin : Origin) :
    (h.keep done).session? origin =
      if origin = .connected id then some done.connection.session else h.session? origin := by
  have ids : done.connection.id = id := same.trans (SessionTable.id_of_find? found)
  cases origin with
  | detached index => rw [if_neg (by intro other; cases other)]; rfl
  | connected other =>
      rw [session?, keep, SessionTable.find?_put, ids]
      by_cases h' : other = id
      · subst h'
        rw [if_pos rfl, if_pos rfl, found]
        rfl
      · rw [if_neg h', if_neg (by simpa using h')]
        rfl

end Hub

end Connector
