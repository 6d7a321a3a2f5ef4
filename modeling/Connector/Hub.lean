import Connector.Json.Text
import Connector.Packet.Framing
import Connector.SessionTable
import Connector.Settings
import Connector.Switchboard

/-! A hub: all that a node knows, without its sockets.

- `Connection.process`: the fate of a packet, seen from its connection.
- `Hub.process`: the same within the hub.
- `Hub.route`, `Hub.dispatch`, `Hub.forward`: the switchboard's doings for a session of the hub. -/

namespace Connector

/-! ## Packets -/

/-- The dictionary comes by code. -/
def handshakeText (interval : Nat) (dictionary : RouteDictionary) : String :=
  let codes := dictionary.entries.map fun (route, code) => (route, toString code)
  let sys := [("heartbeat", toString interval), ("dict", Json.object codes)]
  Json.object [("code", "200"), ("sys", Json.object sys)]

/-- The switchboard and the connection after a packet, with what happened. -/
structure Processed (ε : Type) where
  board : Switchboard ε
  connection : Connection
  trace : Trace ε

namespace Connection

variable {ε : Type}

def origin (c : Connection) : Origin := .connected c.id

/-- The status moves before the reply is sent, and stays moved if that fails. -/
def processHandshake (board : Switchboard ε) (interval : Nat) (c : Connection) : Processed ε :=
  match c.handshake with
  | (c, false) => ⟨board, c, .log (.debug s!"session {c.id} is closed, ignore handshake")⟩
  | (c, true) =>
      let reply := Bytes.ofString (handshakeText interval board.registry.dictionary)
      match c.session.sendPacket ⟨.handshake, reply⟩ with
      | (session, .ok ()) => ⟨board, { c with session }, .empty⟩
      | (session, .error e) =>
          ⟨board, { c with session },
            .log (.error s!"session {c.id} handshake response failed: {e.toError.message}")⟩

def processAck (board : Switchboard ε) (c : Connection) : Processed ε :=
  match c.acknowledge with
  | (c, false) => ⟨board, c, .log (.debug s!"session {c.id} is closed, ignore handshake ack")⟩
  | (c, true) => ⟨board, c, .empty⟩

def processData (board : Switchboard ε) (c : Connection) (body : Bytes) : Processed ε :=
  match Message.decode board.registry.dictionary body with
  | .error e =>
      ⟨board, c, .log (.debug s!"session {c.id} drop undecodable message: {e.toError.message}")⟩
  | .ok m =>
      let routed := board.route c.origin c.session m
      ⟨routed.board, { c with session := routed.session }, routed.trace⟩

def processKind (board : Switchboard ε) (interval now : Nat) (c : Connection) (p : Packet) :
    Processed ε :=
  match p.kind with
  | .handshake => c.processHandshake board interval
  | .handshakeAck => c.processAck board
  | .heartbeat => ⟨board, c.hear now, .empty⟩
  | .data => (c.hear now).processData board p.body

def process (board : Switchboard ε) (interval now : Nat) (c : Connection) (p : Packet) :
    Processed ε :=
  let done := c.processKind board interval now p
  let begun : Trace ε := .log (.trace s!"session {c.id} processing {p.describe}")
  { done with trace := begun ++ done.trace }

end Connection

/-! ## The hub -/

/-- `detached` holds sessions that the table does not know, `now` is the time in milliseconds. -/
structure Hub (ε : Type) where
  settings : Settings
  board : Switchboard ε
  table : SessionTable
  detached : List Session
  now : Nat

/-- Handlers for one kind of node cannot serve another. -/
structure ServerTypeMismatch where
  handlers : String
  node : String
  deriving DecidableEq, Repr

def ServerTypeMismatch.toError (e : ServerTypeMismatch) : Error :=
  .invalidValue s!"handlers registered for server type {e.handlers} but this node is {e.node}"

namespace Hub

variable {ε : Type}

def new (settings : Settings) (registry : Registry (Method ε)) (forwardCapacity : Nat) :
    Except ServerTypeMismatch (Hub ε) :=
  if registry.serverType = settings.general.serverType then
    .ok ⟨settings, ⟨registry, .empty forwardCapacity⟩, .empty, [], 0⟩
  else .error ⟨registry.serverType, settings.general.serverType⟩

def registry (h : Hub ε) : Registry (Method ε) := h.board.registry

def forwards (h : Hub ε) : Queue Forward := h.board.forwards

def withRegistry (h : Hub ε) (registry : Registry (Method ε)) : Hub ε :=
  { h with board := { h.board with registry } }

def withForwards (h : Hub ε) (forwards : Queue Forward) : Hub ε :=
  { h with board := { h.board with forwards } }

def describe (h : Hub ε) : String :=
  "ServerContext \x7b server_id: " ++ Text.quoted h.settings.general.serverId ++ ", server_type: " ++
    Text.quoted h.settings.general.serverType ++ s!", sessions: {h.table.count} " ++ "\x7d"

/-! ### Sessions -/

def session? (h : Hub ε) : Origin → Option Session
  | .connected id => (h.table.find? id).map (·.session)
  | .detached index => h.detached[index]?

def putSession (h : Hub ε) (origin : Origin) (s : Session) : Hub ε :=
  match origin with
  | .connected id =>
      match h.table.find? id with
      | none => h
      | some c => { h with table := h.table.put { c with session := s } }
  | .detached index => { h with detached := h.detached.set index s }

/-- Does something with a session and keeps what becomes of it. -/
def onSession {α : Type} (h : Hub ε) (origin : Origin) (f : Session → Session × α) :
    Hub ε × Option α :=
  match h.session? origin with
  | none => (h, none)
  | some s =>
      let (s, a) := f s
      (h.putSession origin s, some a)

def detach (h : Hub ε) (s : Session) : Hub ε × Origin :=
  ({ h with detached := h.detached ++ [s] }, .detached h.detached.length)

def connect (h : Hub ε) (capacity : Nat) (peer : Address) : Hub ε × Connection × Log :=
  let (table, c) := h.table.create capacity peer h.now
  ({ h with table }, c, SessionTable.createdLog c)

/-- Releases the connection that has the id of a session. -/
def release (h : Hub ε) (id : Nat) : Hub ε × Option Connection × List Log :=
  match h.table.release id with
  | (_, none) => (h, none, [])
  | (table, some c) => ({ h with table }, some c, [SessionTable.releasedLog c])

def onConnection {α : Type} (h : Hub ε) (id : Nat) (f : Connection → Connection × α) :
    Hub ε × Option α :=
  match h.table.find? id with
  | none => (h, none)
  | some c =>
      let (c, a) := f c
      ({ h with table := h.table.put c }, some a)

/-! ### Messages and packets -/

def routed (h : Hub ε) (origin : Origin) (r : Routed ε) : Hub ε :=
  { h with board := r.board }.putSession origin r.session

def route (h : Hub ε) (origin : Origin) (m : Message) : Hub ε × Trace ε :=
  match h.session? origin with
  | none => (h, .empty)
  | some s =>
      let r := h.board.route origin s m
      (h.routed origin r, r.trace)

def dispatch (h : Hub ε) (origin : Origin) (route : Route) (body : Bytes) :
    Hub ε × Trace ε × Except DispatchError Unit :=
  match h.session? origin with
  | none => (h, .empty, .error (h.board.noMethod route))
  | some s =>
      let (r, result) := h.board.dispatch s route body
      (h.routed origin r, r.trace, result)

def forward (h : Hub ε) (kind : ForwardKind) (origin : Origin) (route : Route) (body : Bytes) :
    Hub ε × Trace ε :=
  match h.session? origin with
  | none => (h, .empty)
  | some s =>
      let (board, line) := h.board.forward kind origin s route body
      ({ h with board }, .log line)

def process (h : Hub ε) (id : Nat) (p : Packet) : Hub ε × Trace ε :=
  match h.table.find? id with
  | none => (h, .empty)
  | some c =>
      let done := c.process h.board h.settings.heartbeat.interval h.now p
      ({ h with board := done.board, table := h.table.put done.connection }, done.trace)

def processAll (h : Hub ε) (id : Nat) : List Packet → Hub ε × Trace ε
  | [] => (h, .empty)
  | p :: ps =>
      let (h, first) := h.process id p
      let (h, later) := h.processAll id ps
      (h, first ++ later)

/-- What came of octets that arrived: how many packets were processed, what ended the framing, and what
stays in the buffer. -/
structure Fed (ε : Type) where
  hub : Hub ε
  packets : Nat
  fault : Option PacketError
  rest : Bytes
  trace : Trace ε

/-- Processes every whole packet of a buffer, each before the next is looked for. -/
def feedBuffer (h : Hub ε) (limit id : Nat) (buffer : Bytes) : Fed ε :=
  match _h : Framing.parse limit buffer with
  | ⟨.error e, rest, skipped⟩ => ⟨h, 0, some e, rest, ⟨[], Framing.skippedLogs skipped⟩⟩
  | ⟨.ok none, rest, skipped⟩ => ⟨h, 0, none, rest, ⟨[], Framing.skippedLogs skipped⟩⟩
  | ⟨.ok (some p), rest, skipped⟩ =>
      let (hub, trace) := h.process id p
      let later := hub.feedBuffer limit id rest
      let begun : Trace ε := ⟨[], Framing.skippedLogs skipped⟩
      { later with packets := later.packets + 1, trace := begun ++ trace ++ later.trace }
termination_by buffer.length
decreasing_by
  have shorter : (Framing.parse limit buffer).rest.length < buffer.length :=
    Framing.parse_rest_length_lt (p := p) (by rw [_h])
  rwa [_h] at shorter

def feed (h : Hub ε) (limit id : Nat) (buffer data : Bytes) : Fed ε :=
  h.feedBuffer limit id (buffer ++ data)

/-- Takes forwarded requests from the front of the queue. -/
def takeForwards (h : Hub ε) (n : Nat) : List Forward × Hub ε :=
  let (taken, forwards) := h.forwards.take n
  (taken, h.withForwards forwards)

/-- Tells whether the queue was open. -/
def closeForwards (h : Hub ε) : Hub ε × Bool :=
  (h.withForwards h.forwards.close, !h.forwards.closed)

end Hub

end Connector
