import Connector.Proofs.Processing

/-! What gets into the queue of a session, as the outcomes of its sends tell.

* `Program.sent`, `Switchboard.sent`, `Connection.sent`, `Hub.sent`: the buffers whose sends
  succeed while a handler runs, a message is routed and a packet is processed;
* `Hub.process_fills`: the processing of a packet does nothing to the queue but to put these into it. -/

namespace Connector

variable {ε : Type}

open Session (bufferSent)

/-! ## Handlers -/

namespace Program

/-- The buffers whose sends succeed while the program runs. -/
def sent : Program ε → Session → List Bytes
  | done, _ => []
  | report _ next, s => next.sent s
  | respond body next, s =>
      bufferSent (s.respond body).2 (Message.response s.pending body).buffer? ++
        (next (s.respond body).2).sent (s.respond body).1
  | push route body next, s =>
      bufferSent (s.push route body).2 (Message.push route body).buffer? ++
        (next (s.push route body).2).sent (s.push route body).1
  | bind uid next, s => next.sent (s.bind uid)
  | setPending id next, s => next.sent (s.setPending id)
  | clearPending next, s => next.sent s.clearPending
  | panic _, _ => []

theorem run_fills (program : Program ε) (s : Session) :
    s.outbound.Fills (program.sent s) (program.run s).session.outbound := by
  induction program generalizing s with
  | done => exact .refl _
  | panic payload => exact .refl _
  | report event next ih => exact ih s
  | bind uid next ih => exact ih (s.bind uid)
  | setPending id next ih => exact ih (s.setPending id)
  | clearPending next ih => exact ih s.clearPending
  | respond body next ih => exact (s.respond_fills body).trans (ih _ _)
  | push route body next ih => exact (s.sendMessage_fills _).trans (ih _ _)

end Program

/-! ## Messages -/

namespace Switchboard

/-- The buffers whose sends succeed while a method runs. -/
def called (b : Switchboard ε) (s : Session) (route : Route) (body : Bytes) : List Bytes :=
  match b.registry.find? route.service route.method with
  | none => []
  | some entry => (entry.method s body).sent s

/-- The buffers whose sends succeed while a message is routed. -/
def sent (b : Switchboard ε) (s : Session) (m : Message) : List Bytes :=
  match Route.parse m.route with
  | .error _ => []
  | .ok route =>
      match accept s m route with
      | .error _ => []
      | .ok session =>
          if route.serverType = b.registry.serverType then b.called session route m.body else []

theorem outbound_of_accept {s accepted : Session} {m : Message} {route : Route}
    (h : accept s m route = .ok accepted) : accepted.outbound = s.outbound := by
  unfold accept at h
  repeat' split at h
  all_goals cases h
  all_goals rfl

theorem dispatch_fills (b : Switchboard ε) (s : Session) (route : Route) (body : Bytes) :
    s.outbound.Fills (b.called s route body) (b.dispatch s route body).1.session.outbound := by
  unfold dispatch called
  cases b.registry.find? route.service route.method with
  | none => exact .refl _
  | some entry => exact (entry.method s body).run_fills s

theorem send_fills (b : Switchboard ε) (origin : Origin) (s : Session) (route : Route) (body : Bytes) :
    s.outbound.Fills (if route.serverType = b.registry.serverType then b.called s route body else [])
      (b.send origin s route body).session.outbound := by
  unfold send
  split
  · exact b.dispatch_fills s route body
  · exact .refl _

theorem route_fills (b : Switchboard ε) (origin : Origin) (s : Session) (m : Message) :
    s.outbound.Fills (b.sent s m) (b.route origin s m).session.outbound := by
  unfold route sent
  cases Route.parse m.route with
  | error e => exact .refl _
  | ok route =>
      cases served : accept s m route with
      | error line => simpa only [served] using .refl _
      | ok session =>
          simp only [served]
          rw [← outbound_of_accept served]
          exact b.send_fills origin session route m.body

end Switchboard

/-! ## Packets -/

namespace Connection

/-- The buffers whose sends succeed while a packet is processed. -/
def sent (board : Switchboard ε) (interval : Nat) (c : Connection) (p : Packet) : List Bytes :=
  match p.kind with
  | .handshake =>
      if c.status = .closed then []
      else
        let reply : Packet := ⟨.handshake, Bytes.ofString (handshakeText interval board.registry.dictionary)⟩
        bufferSent (c.session.sendPacket reply).2 reply.encode.toOption
  | .handshakeAck | .heartbeat => []
  | .data =>
      match Message.decode board.registry.dictionary p.body with
      | .error _ => []
      | .ok m => board.sent c.session m

theorem processKind_fills (board : Switchboard ε) (interval now : Nat) (c : Connection) (p : Packet) :
    c.session.outbound.Fills (c.sent board interval p)
      (c.processKind board interval now p).connection.session.outbound := by
  obtain ⟨kind, body⟩ := p
  cases kind with
  | handshake =>
      simp only [processKind, sent]
      by_cases closed : c.status = .closed
      · rw [if_pos closed, processHandshake_of_closed board interval closed]
        exact .refl _
      · rw [if_neg closed, processHandshake_of_open board interval closed]
        exact c.session.sendPacket_fills _
  | handshakeAck => exact .of_eq (congrArg Session.outbound (session_processAck board c))
  | heartbeat => exact .refl _
  | data =>
      simp only [processKind, sent, processData]
      cases Message.decode board.registry.dictionary body with
      | error e => exact .refl _
      | ok m => exact board.route_fills _ c.session m

end Connection

namespace Hub

/-- The same for a packet of one of the connections of a hub. -/
def sent (h : Hub ε) (id : Nat) (p : Packet) : List Bytes :=
  match h.table.find? id with
  | none => []
  | some c => c.sent h.board h.settings.heartbeat.interval p

theorem process_fills {h : Hub ε} {id : Nat} {s : Session} (found : h.session? (.connected id) = some s)
    (p : Packet) :
    ∃ later, (h.process id p).1.session? (.connected id) = some later ∧
      s.outbound.Fills (h.sent id p) later.outbound := by
  obtain ⟨c, known, rfl⟩ := Option.map_eq_some_iff.mp found
  have same := c.id_processKind h.board h.settings.heartbeat.interval h.now p
  have fills := c.processKind_fills h.board h.settings.heartbeat.interval h.now p
  refine ⟨_, ?_, by rw [sent, known]; exact fills⟩
  rw [process_of_found known, session?_keep known same, if_pos rfl]

end Hub

end Connector
