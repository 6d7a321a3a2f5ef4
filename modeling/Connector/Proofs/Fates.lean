import Connector.Proofs.Histories
import Connector.Proofs.MessageRoundTrip
import Connector.Proofs.Processing
import Connector.Proofs.RouteText

/-! The fate of a data packet: it is dropped, dispatched to a method of this node, or forwarded to another.

* `Fate.Of`, `Fate.exists_of`, `Fate.of_unique`: the fate of a body. There is one, and no other;
* `Fate.Leaves`, `Connection.processData_leaves`: what each fate leaves behind;
* `Hub.forwards_keep_order`: what is queued for other nodes leaves as it came, first in, first out;
* `Hub.one_fate`: all of this at any time in the life of a hub. -/

namespace Connector

variable {ε : Type}

/-! ## Messages -/

namespace Message

/-- A notification, or a request that can be answered. -/
def Asks (m : Message) : Prop := m.kind = .notify ∨ m.kind = .request ∧ m.id ≠ Session.noPending

/-- The id that an answer has to carry. Only requests get one. -/
def awaited (m : Message) : UInt64 := if m.kind = .request then m.id else Session.noPending

theorem awaited_ne {m : Message} (h : m.awaited ≠ Session.noPending) :
    m.kind = .request ∧ m.awaited = m.id := by
  unfold awaited at h ⊢
  split at h
  · next request => exact ⟨request, if_pos request⟩
  · exact absurd rfl h

def IsFor (m : Message) (route : Route) : Prop := route.Proper ∧ m.route = route.text

theorem isFor_iff (m : Message) (route : Route) : m.IsFor route ↔ Route.parse m.route = .ok route :=
  (Route.parse_eq_ok_iff m.route route).symm

theorem IsFor.unique {m : Message} {route other : Route} (h : m.IsFor route) (h' : m.IsFor other) :
    route = other := Route.text_inj h.1 h'.1 (h.2.symm.trans h'.2)

end Message

theorem Switchboard.accept_of_asks {m : Message} (asks : m.Asks) (s : Session) (route : Route) :
    accept s m route = .ok (s.setPending m.awaited) := by
  rcases asks with notify | ⟨request, answerable⟩
  · simp [accept, Message.awaited, notify, Session.clearPending]
  · simp [accept, Message.awaited, request, answerable]

theorem Switchboard.accept_of_not_asks {m : Message} (h : ¬ m.Asks) (s : Session) (route : Route) :
    ∃ line, accept s m route = .error line ∧ line.level = .warn := by
  obtain ⟨kind, id, text, body⟩ := m
  cases kind with
  | request =>
      have reserved : id = Session.noPending := by simpa [Message.Asks] using h
      exact ⟨_, by rw [accept]; exact if_pos reserved, rfl⟩
  | notify => exact absurd (.inl rfl) h
  | response => exact ⟨_, rfl, rfl⟩
  | push => exact ⟨_, rfl, rfl⟩

/-! ## Traces -/

namespace Trace

def levels (t : Trace ε) : List Level := t.logs.map (·.level)

def callsTo (t : Trace ε) (service method : String) : Nat :=
  t.calls.countP fun call => call.service = service ∧ call.method = method

end Trace

/-! ## Fates -/

inductive Fate where
  | undecodable (cause : DecodeError)
  | refused (m : Message)
  | dispatched (m : Message) (route : Route)
  | forwarded (m : Message) (route : Route)

namespace Fate

/-- The fate of a body at a node with a registry. -/
def Of (r : Registry (Method ε)) (body : Bytes) : Fate → Prop
  | undecodable cause => Message.decode r.dictionary body = .error cause
  | refused m =>
      Message.decode r.dictionary body = .ok m ∧ ((∀ route, ¬ m.IsFor route) ∨ ¬ m.Asks)
  | dispatched m route =>
      Message.decode r.dictionary body = .ok m ∧ m.IsFor route ∧ m.Asks ∧
        route.serverType = r.serverType
  | forwarded m route =>
      Message.decode r.dictionary body = .ok m ∧ m.IsFor route ∧ m.Asks ∧
        route.serverType ≠ r.serverType

theorem exists_of (r : Registry (Method ε)) (body : Bytes) : ∃ fate : Fate, fate.Of r body := by
  cases decoded : Message.decode r.dictionary body with
  | error cause => exact ⟨.undecodable cause, decoded⟩
  | ok m =>
      by_cases asks : m.Asks
      · by_cases named : ∃ route, m.IsFor route
        · obtain ⟨route, named⟩ := named
          by_cases here : route.serverType = r.serverType
          · exact ⟨.dispatched m route, decoded, named, asks, here⟩
          · exact ⟨.forwarded m route, decoded, named, asks, here⟩
        · exact ⟨.refused m, decoded, .inl (not_exists.mp named)⟩
      · exact ⟨.refused m, decoded, .inr asks⟩

theorem same_of_read {d : RouteDictionary} {body : Bytes} {m m' : Message} {route route' : Route}
    (read : Message.decode d body = .ok m) (read' : Message.decode d body = .ok m')
    (named : m.IsFor route) (named' : m'.IsFor route') : m = m' ∧ route = route' := by
  rw [read] at read'
  cases read'
  exact ⟨rfl, named.unique named'⟩

/-- No body has two fates. -/
theorem of_unique {r : Registry (Method ε)} {body : Bytes} {fate other : Fate} (h : fate.Of r body)
    (h' : other.Of r body) : fate = other := by
  cases fate <;> cases other
  case dispatched.dispatched | forwarded.forwarded =>
    obtain ⟨rfl, rfl⟩ := same_of_read h.1 h'.1 h.2.1 h'.2.1
    rfl
  case dispatched.forwarded =>
    obtain ⟨rfl, rfl⟩ := same_of_read h.1 h'.1 h.2.1 h'.2.1
    exact absurd h.2.2.2 h'.2.2.2
  case forwarded.dispatched =>
    obtain ⟨rfl, rfl⟩ := same_of_read h.1 h'.1 h.2.1 h'.2.1
    exact absurd h'.2.2.2 h.2.2.2
  all_goals simp_all [Of]

/-! ## What a fate leaves -/

/-- What a packet of a session leaves behind at a switchboard, by its fate. -/
def Leaves (b : Switchboard ε) (origin : Origin) (s : Session) (after : Routed ε) : Fate → Prop
  | undecodable _ =>
      after.board = b ∧ after.session = s ∧ after.trace.calls = [] ∧ after.trace.levels = [.debug]
  | refused _ =>
      after.board = b ∧ after.session = s ∧ after.trace.calls = [] ∧ after.trace.levels = [.warn]
  | dispatched m route =>
      let asking := s.setPending m.awaited
      after.board.forwards = b.forwards ∧
        match b.registry.find? route.service route.method with
        | none =>
            after.board.registry = b.registry ∧ after.session = asking ∧ after.trace.calls = [] ∧
              after.trace.levels = [.debug, .warn]
        | some entry =>
            let run := (entry.method asking m.body).run asking
            after.board.registry = b.registry.count route.service route.method ∧
              after.session = run.session ∧
              after.trace.calls =
                [⟨route.service, route.method, s.id, m.awaited, m.body, run.reports, run.panic⟩] ∧
              after.trace.levels = .debug :: if run.panic.isSome then [.warn] else []
  | forwarded m route =>
      after.board.registry = b.registry ∧ after.session = s.setPending m.awaited ∧
        after.trace.calls = [] ∧
        if b.forwards.HasRoom then
          after.board.forwards = b.forwards.extend [⟨.system, route, origin, m.awaited, m.body⟩] ∧
            after.trace.levels = [.debug, .trace]
        else after.board.forwards = b.forwards ∧ after.trace.levels = [.debug, .warn]

end Fate

namespace Switchboard

theorem send_here {b : Switchboard ε} {route : Route} (here : route.serverType = b.registry.serverType)
    (origin : Origin) (s : Session) (m : Message) :
    (Fate.dispatched m route).Leaves b origin s
      (b.send origin (s.setPending m.awaited) route m.body) := by
  rw [send, if_pos here, Fate.Leaves, dispatch]
  cases found : b.registry.find? route.service route.method with
  | none => exact ⟨rfl, rfl, rfl, rfl, rfl⟩
  | some entry =>
      dsimp only
      generalize (entry.method (s.setPending m.awaited) m.body).run (s.setPending m.awaited) = run
      cases run.panic with
      | none => exact ⟨rfl, rfl, rfl, rfl, rfl⟩
      | some payload => exact ⟨rfl, rfl, rfl, rfl, rfl⟩

theorem send_elsewhere {b : Switchboard ε} {route : Route}
    (elsewhere : route.serverType ≠ b.registry.serverType) (origin : Origin) (s : Session)
    (m : Message) :
    (Fate.forwarded m route).Leaves b origin s
      (b.send origin (s.setPending m.awaited) route m.body) := by
  rw [send, if_neg elsewhere, Fate.Leaves, forward]
  by_cases room : b.forwards.HasRoom
  · rw [if_pos room, Queue.offer_of_hasRoom room]
    exact ⟨rfl, rfl, rfl, rfl, rfl⟩
  · rw [if_neg room]
    obtain ⟨refusal, refused⟩ := Queue.offer_of_not_hasRoom room
      (⟨.system, route, origin, (s.setPending m.awaited).pending, m.body⟩ : Forward)
    rw [refused]
    cases refusal with
    | full => exact ⟨rfl, rfl, rfl, rfl, rfl⟩
    | closed => exact ⟨rfl, rfl, rfl, rfl, rfl⟩

theorem route_of_isFor {b : Switchboard ε} {m : Message} {route : Route} (named : m.IsFor route)
    (asks : m.Asks) (origin : Origin) (s : Session) :
    b.route origin s m = b.send origin (s.setPending m.awaited) route m.body := by
  rw [Switchboard.route, (m.isFor_iff route).mp named]
  simp only [accept_of_asks asks]

theorem route_of_refused {m : Message} (h : (∀ route, ¬ m.IsFor route) ∨ ¬ m.Asks) (b : Switchboard ε)
    (origin : Origin) (s : Session) : (Fate.refused m).Leaves b origin s (b.route origin s m) := by
  rw [Switchboard.route]
  cases parsed : Route.parse m.route with
  | error e => exact ⟨rfl, rfl, rfl, rfl⟩
  | ok route =>
      rcases h with nowhere | silent
      · exact absurd ((m.isFor_iff route).mpr parsed) (nowhere route)
      · obtain ⟨line, refused, warning⟩ := accept_of_not_asks silent s route
        simp only [refused]
        exact ⟨rfl, rfl, rfl, congrArg (fun level => [level]) warning⟩

end Switchboard

/-- What the processing of a data packet leaves is what its fate says. -/
theorem Connection.processData_leaves {board : Switchboard ε} {body : Bytes} {fate : Fate}
    (known : fate.Of board.registry body) (c : Connection) :
    let done := c.processData board body
    done.connection = { c with session := done.connection.session } ∧
      fate.Leaves board c.origin c.session ⟨done.board, done.connection.session, done.trace⟩ := by
  cases fate with
  | undecodable cause =>
      have decoded : Message.decode board.registry.dictionary body = .error cause := known
      rw [processData, decoded]
      exact ⟨rfl, rfl, rfl, rfl, rfl⟩
  | refused m =>
      obtain ⟨decoded, refused⟩ := known
      rw [processData, decoded]
      exact ⟨rfl, Switchboard.route_of_refused refused board c.origin c.session⟩
  | dispatched m route =>
      obtain ⟨decoded, named, asks, here⟩ := known
      rw [processData, decoded]
      simp only [Switchboard.route_of_isFor named asks]
      exact ⟨trivial, Switchboard.send_here here c.origin c.session m⟩
  | forwarded m route =>
      obtain ⟨decoded, named, asks, elsewhere⟩ := known
      rw [processData, decoded]
      simp only [Switchboard.route_of_isFor named asks]
      exact ⟨trivial, Switchboard.send_elsewhere elsewhere c.origin c.session m⟩

/-! ## Counts -/

namespace Registry

variable {μ : Type}

theorem find?_count (r : Registry μ) (service method other name : String) :
    (r.count service method).find? other name =
      (r.find? other name).map fun e =>
        if service = other ∧ method = name then { e with calls := e.calls + 1 } else e := by
  simp only [find?, service?, count, List.find?_map, Function.comp_def, apply_ite Service.name, ite_self]
  cases found : r.services.find? (·.name == other) with
  | none => rfl
  | some s =>
      have named : s.name = other := by simpa using List.find?_some found
      simp only [Option.map_some, Option.bind_some, named]
      by_cases same : other = service
      · subst same
        simp only [if_true, List.find?_map, Function.comp_def, apply_ite Entry.name, ite_self, true_and]
        cases found' : s.entries.find? (·.name == name) with
        | none => rfl
        | some e =>
            have named' : e.name = name := by simpa using List.find?_some found'
            simp [named', eq_comm]
      · simp [same, Ne.symm same]

theorem calls?_count (r : Registry μ) (service method other name : String) :
    (r.count service method).calls? other name =
      (r.calls? other name).map (· + if service = other ∧ method = name then 1 else 0) := by
  rw [calls?, find?_count, calls?, Option.map_map, Option.map_map]
  congr 1
  funext e
  simp only [Function.comp_apply, apply_ite Entry.calls]
  split
  · rfl
  · exact (UInt64.add_zero _).symm

end Registry

namespace Fate

variable {b : Switchboard ε} {origin : Origin} {s : Session} {after : Routed ε} {fate : Fate}

/-- The counts of a registry tell the calls that were made. -/
theorem Leaves.calls? (left : fate.Leaves b origin s after) (service method : String) :
    after.board.registry.calls? service method =
      (b.registry.calls? service method).map (· + .ofNat (after.trace.callsTo service method)) := by
  have quiet (same : after.board.registry = b.registry) (none : after.trace.calls = []) :
      after.board.registry.calls? service method =
        (b.registry.calls? service method).map (· + .ofNat (after.trace.callsTo service method)) := by
    simp [same, Trace.callsTo, none]
  cases fate with
  | undecodable cause =>
      obtain ⟨board, -, none, -⟩ := left
      exact quiet (congrArg _ board) none
  | refused m =>
      obtain ⟨board, -, none, -⟩ := left
      exact quiet (congrArg _ board) none
  | forwarded m route =>
      obtain ⟨registry, -, none, -⟩ := left
      exact quiet registry none
  | dispatched m route =>
      obtain ⟨-, left⟩ := left
      split at left
      · obtain ⟨registry, -, none, -⟩ := left
        exact quiet registry none
      · obtain ⟨registry, -, called, -⟩ := left
        rw [registry, Registry.calls?_count, Trace.callsTo, called]
        simp [List.countP_singleton, apply_ite UInt64.ofNat]

/-- Whatever its fate, a packet takes nothing from the requests that wait for other nodes. -/
theorem Leaves.forwards (left : fate.Leaves b origin s after) :
    ∃ more, after.board.forwards = b.forwards.extend more := by
  cases fate with
  | undecodable cause => exact ⟨[], by rw [left.1, Queue.extend_nil]⟩
  | refused m => exact ⟨[], by rw [left.1, Queue.extend_nil]⟩
  | dispatched m route => exact ⟨[], by rw [left.1, Queue.extend_nil]⟩
  | forwarded m route =>
      obtain ⟨-, -, -, left⟩ := left
      split at left
      · exact ⟨_, left.1⟩
      · exact ⟨[], by rw [left.1, Queue.extend_nil]⟩

end Fate

/-! ## Histories -/

theorem Connection.processKind_board {p : Packet} (h : p.kind ≠ .data) (board : Switchboard ε)
    (interval now : Nat) (c : Connection) : (c.processKind board interval now p).board = board := by
  unfold processKind
  split
  · unfold processHandshake
    split
    · rfl
    · dsimp only
      split
      · rfl
      · rfl
  · unfold processAck
    split
    · rfl
    · rfl
  · rfl
  · next data => exact absurd data h

namespace Hub

theorem process_forwards (h : Hub ε) (id : Nat) (p : Packet) :
    ∃ more, (h.process id p).1.forwards = h.forwards.extend more := by
  cases found : h.table.find? id with
  | none => exact ⟨[], by rw [process_of_unknown found, Queue.extend_nil]⟩
  | some c =>
      rw [process_of_found found]
      by_cases data : p.kind = .data
      · obtain ⟨fate, known⟩ := Fate.exists_of h.registry p.body
        obtain ⟨-, left⟩ := Connection.processData_leaves known (c.hear h.now)
        simp only [Connection.processKind, data]
        exact left.forwards
      · refine ⟨[], ?_⟩
        rw [Queue.extend_nil]
        exact congrArg Switchboard.forwards (Connection.processKind_board data ..)

/-- What an event takes from the requests that wait for other nodes. -/
def takenBy (h : Hub ε) : Event ε → List Forward
  | .takeForwards n => (h.takeForwards n).1
  | _ => []

def takenByAll (h : Hub ε) : List (Event ε) → List Forward
  | [] => []
  | e :: es => h.takenBy e ++ (h.after e).takenByAll es

theorem forwards_withRegistry (h : Hub ε) (r : Registry (Method ε)) :
    (h.withRegistry r).forwards = h.forwards := rfl

theorem takenBy_append_forwards (h : Hub ε) (e : Event ε) :
    ∃ more, h.takenBy e ++ (h.after e).forwards.items = h.forwards.items ++ more := by
  cases e with
  | packet id p =>
      obtain ⟨more, extended⟩ := h.process_forwards id p
      exact ⟨more, by rw [after, extended]; rfl⟩
  | takeForwards n => exact ⟨[], by rw [List.append_nil]; exact List.take_append_drop n h.forwards.items⟩
  | register typeName candidates =>
      exact ⟨[], by rw [after, forwards_withRegistry, List.append_nil]; rfl⟩
  | release id => exact ⟨[], by rw [after, forwards, release_board, List.append_nil]; rfl⟩
  | receive origin n => exact ⟨[], by rw [after, forwards, onSession_board, List.append_nil]; rfl⟩
  | hangUp origin => exact ⟨[], by rw [after, forwards, onSession_board, List.append_nil]; rfl⟩
  | connect | closeForwards | wait => exact ⟨[], by rw [List.append_nil]; rfl⟩

/-- Requests for other nodes leave as they came and in their order, whatever happens in between. -/
theorem forwards_keep_order (h : Hub ε) (es : List (Event ε)) :
    ∃ more, h.takenByAll es ++ (h.afterAll es).forwards.items = h.forwards.items ++ more := by
  induction es generalizing h with
  | nil => exact ⟨[], (List.append_nil _).symm⟩
  | cons e es ih =>
      obtain ⟨first, once⟩ := h.takenBy_append_forwards e
      obtain ⟨later, rest⟩ := ih (h.after e)
      refine ⟨first ++ later, ?_⟩
      calc h.takenByAll (e :: es) ++ (h.afterAll (e :: es)).forwards.items
          = h.takenBy e ++ ((h.after e).takenByAll es ++ ((h.after e).afterAll es).forwards.items) :=
            List.append_assoc ..
        _ = (h.takenBy e ++ (h.after e).forwards.items) ++ later := by rw [rest, List.append_assoc]
        _ = h.forwards.items ++ (first ++ later) := by rw [once, List.append_assoc]

/-- A packet touches no session but its own. -/
theorem process_session?_of_ne (h : Hub ε) {id : Nat} (p : Packet) {origin : Origin}
    (other : origin ≠ .connected id) : (h.process id p).1.session? origin = h.session? origin := by
  cases found : h.table.find? id with
  | none => rw [process_of_unknown found]
  | some c =>
      rw [process_of_found found]
      exact (session?_keep found (Connection.id_processKind ..) origin).trans (if_neg other)

theorem process_leaves {h : Hub ε} {id : Nat} {body : Bytes} {c : Connection} {fate : Fate}
    (found : h.table.find? id = some c) (known : fate.Of h.registry body) :
    let processed := h.process id ⟨.data, body⟩
    ∃ done : Routed ε, fate.Leaves h.board (.connected id) c.session done ∧
      processed.1.board = done.board ∧ processed.1.session? (.connected id) = some done.session ∧
      processed.2 = .log (c.beginLog ⟨.data, body⟩) ++ done.trace := by
  intro processed
  have ids : c.id = id := SessionTable.id_of_find? found
  obtain ⟨-, left⟩ := Connection.processData_leaves known (c.hear h.now)
  have origin : (c.hear h.now).origin = .connected id := congrArg Origin.connected ids
  rw [origin] at left
  refine ⟨_, left, ?_, ?_, ?_⟩
  · exact congrArg (·.1.board) (process_of_found found _)
  · show (h.process id ⟨.data, body⟩).1.session? _ = _
    rw [process_of_found found]
    exact (session?_keep found (Connection.id_processKind ..) _).trans (if_pos rfl)
  · exact congrArg Prod.snd (process_of_found found _)

/-- **Every data packet has one fate.** Whatever has happened at a hub, a packet of one of its connections
is dropped, dispatched or forwarded as its body and the registry say, and this alone is what it leaves: on
its own session, in the counts, in the queue for other nodes and in the diagnostics. What is queued for
other nodes stays as it is until it is taken, whatever happens later. -/
theorem one_fate (h : Hub ε) (before later : List (Event ε)) (id : Nat) (body : Bytes) (c : Connection)
    (found : (h.afterAll before).table.find? id = some c) :
    let now := h.afterAll before
    let next := now.after (.packet id ⟨.data, body⟩)
    let trace := (now.process id ⟨.data, body⟩).2
    (∃ (fate : Fate) (done : Routed ε), (∀ other : Fate, other.Of now.registry body ↔ other = fate) ∧
      fate.Leaves now.board (.connected id) c.session done ∧
      next.board = done.board ∧ next.session? (.connected id) = some done.session ∧
      trace = .log (c.beginLog ⟨.data, body⟩) ++ done.trace) ∧
    (∀ origin, origin ≠ .connected id → next.session? origin = now.session? origin) ∧
    (∀ service method, next.registry.calls? service method =
      (now.registry.calls? service method).map (· + .ofNat (trace.callsTo service method))) ∧
    ∃ more, next.takenByAll later ++ (next.afterAll later).forwards.items =
      next.forwards.items ++ more := by
  intro now next trace
  obtain ⟨fate, known⟩ := Fate.exists_of now.registry body
  have only (other : Fate) : other.Of now.registry body ↔ other = fate :=
    ⟨fun h' => Fate.of_unique h' known, fun same => same ▸ known⟩
  obtain ⟨done, left, board, session, traced⟩ := process_leaves found known
  refine ⟨⟨fate, done, only, left, board, session, traced⟩, ?_, ?_, forwards_keep_order next later⟩
  · intro origin other
    exact now.process_session?_of_ne _ other
  · intro service method
    have counted := left.calls? service method
    have calls : trace.callsTo service method = done.trace.callsTo service method :=
      (congrArg (Trace.callsTo · service method) traced).trans rfl
    rw [← board] at counted
    rw [calls]
    exact counted

/-- A request for a map on another node, from a client that is connected before. -/
theorem one_fate_of_request :
    let h : Hub Unit := ⟨{}, ⟨.empty "chat", .empty 1⟩, .empty, [], 0⟩
    let before := [.connect 4 ⟨.v4 127 0 0 1, 3250⟩]
    let now := h.afterAll before
    let asked := Message.request 7 "area.Map.Move" [1]
    ∃ body c, asked.encode none = .ok body ∧ now.table.find? 1 = some c ∧
      (now.after (.packet 1 ⟨.data, body⟩)).board.forwards.items =
        [⟨.system, ⟨"area", "Map", "Move"⟩, .connected 1, 7, [1]⟩] := by
  intro h before now asked
  obtain ⟨body, encoded⟩ : ∃ body, asked.encode none = .ok body := ⟨_, rfl⟩
  have read := Message.decode_of_encode_none encoded now.registry.dictionary
  refine ⟨body, _, encoded, rfl, ?_⟩
  obtain ⟨⟨fate, done, only, left, board, -⟩, -⟩ := one_fate h before [] 1 body _ rfl
  have forwarded : Fate.Of now.registry body (.forwarded asked ⟨"area", "Map", "Move"⟩) :=
    ⟨read, ⟨by decide, by decide⟩, .inr ⟨rfl, by decide⟩, by decide⟩
  obtain rfl := (only _).mp forwarded
  obtain ⟨-, -, -, left⟩ := left
  rw [if_pos (by decide)] at left
  exact congrArg Queue.items ((congrArg Switchboard.forwards board).trans left.1)

end Hub

end Connector
