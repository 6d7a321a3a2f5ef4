import Connector.Proofs.Moves
import Connector.Proofs.Sessions

/-! Connections that share a node do not influence each other.

* `Registry.SameMethods`: registries that differ in their counts alone;
* `Connection.processKind_alike`: a packet does the same to a connection wherever the methods are the same;
* `Hub.Event.Apart`: what may happen beside the packets of a connection;
* `Hub.isolated`: in a run among others a connection fares as it does alone. -/

namespace Connector

/-! ## Methods -/

namespace Registry

variable {μ : Type}

/-- Nothing but how often the methods were called makes a difference. -/
structure SameMethods (r other : Registry μ) : Prop where
  serverType : r.serverType = other.serverType
  dictionary : r.dictionary = other.dictionary
  methods : ∀ service method,
    (r.find? service method).map (·.method) = (other.find? service method).map (·.method)

theorem SameMethods.refl (r : Registry μ) : r.SameMethods r := ⟨rfl, rfl, fun _ _ => rfl⟩

theorem SameMethods.symm {r other : Registry μ} (h : r.SameMethods other) : other.SameMethods r :=
  ⟨h.serverType.symm, h.dictionary.symm, fun service method => (h.methods service method).symm⟩

theorem SameMethods.trans {r next last : Registry μ} (h : r.SameMethods next) (h' : next.SameMethods last) :
    r.SameMethods last where
  serverType := h.serverType.trans h'.serverType
  dictionary := h.dictionary.trans h'.dictionary
  methods service method := (h.methods service method).trans (h'.methods service method)

theorem sameMethods_count (r : Registry μ) (service method : String) :
    (r.count service method).SameMethods r where
  serverType := rfl
  dictionary := rfl
  methods other name := by
    rw [find?_count, Option.map_map]
    congr 1
    funext e
    simp only [Function.comp_apply]
    split
    · rfl
    · rfl

theorem Counted.sameMethods {r later : Registry μ} (counted : r.Counted later) : later.SameMethods r := by
  cases counted with
  | none => exact .refl r
  | one service method => exact r.sameMethods_count service method

end Registry

/-! ## Fates -/

variable {ε : Type}

namespace Fate

theorem Of.congr {r other : Registry (Method ε)} (same : r.SameMethods other) {body : Bytes} {fate : Fate}
    (known : fate.Of r body) : fate.Of other body := by
  cases fate with
  | undecodable cause | refused m | dispatched m route | forwarded m route =>
    simp only [Of, ← same.dictionary, ← same.serverType]
    exact known

variable {b other : Switchboard ε} {origin : Origin} {s : Session} {after after' : Routed ε} {fate : Fate}

/-- Neither the counts nor the requests that wait for other nodes come back to a session. -/
theorem Leaves.alike (same : b.registry.SameMethods other.registry) (left : fate.Leaves b origin s after)
    (left' : fate.Leaves other origin s after') :
    after.session = after'.session ∧ after.trace.calls = after'.trace.calls := by
  cases fate with
  | undecodable cause => exact ⟨left.2.1.trans left'.2.1.symm, left.2.2.1.trans left'.2.2.1.symm⟩
  | refused m => exact ⟨left.2.1.trans left'.2.1.symm, left.2.2.1.trans left'.2.2.1.symm⟩
  | forwarded m route => exact ⟨left.2.1.trans left'.2.1.symm, left.2.2.1.trans left'.2.2.1.symm⟩
  | dispatched m route =>
      obtain ⟨-, left⟩ := left
      obtain ⟨-, left'⟩ := left'
      have methods := same.methods route.service route.method
      cases found : b.registry.find? route.service route.method with
      | none =>
          cases found' : other.registry.find? route.service route.method with
          | some entry => simp [found, found'] at methods
          | none =>
              simp only [found] at left
              simp only [found'] at left'
              exact ⟨left.2.1.trans left'.2.1.symm, left.2.2.1.trans left'.2.2.1.symm⟩
      | some entry =>
          cases found' : other.registry.find? route.service route.method with
          | none => simp [found, found'] at methods
          | some entry' =>
              have method : entry.method = entry'.method := by simpa [found, found'] using methods
              simp only [found, method] at left
              simp only [found'] at left'
              exact ⟨left.2.1.trans left'.2.1.symm, left.2.2.1.trans left'.2.2.1.symm⟩

theorem Leaves.session_of_mem_calls (left : fate.Leaves b origin s after) {call : Call ε}
    (mem : call ∈ after.trace.calls) : call.session = s.id := by
  cases fate with
  | undecodable cause => rw [left.2.2.1] at mem; cases mem
  | refused m => rw [left.2.2.1] at mem; cases mem
  | forwarded m route => rw [left.2.2.1] at mem; cases mem
  | dispatched m route =>
      obtain ⟨-, left⟩ := left
      split at left
      · rw [left.2.2.1] at mem
        cases mem
      · rw [left.2.2.1] at mem
        rw [List.mem_singleton.mp mem]

end Fate

/-! ## Connections -/

namespace Connection

/-- Nothing but when it was heard, and what is known of its client, makes a difference. -/
structure Like (c other : Connection) : Prop where
  status : c.status = other.status
  session : c.session = other.session

theorem status_processHandshake_of_open (board : Switchboard ε) (interval : Nat) {c : Connection}
    (isOpen : c.status ≠ .closed) :
    (c.processHandshake board interval).connection.status = .handshaking := by
  have shaken : c.handshake = ({ c with status := .handshaking }, true) := if_neg isOpen
  rw [processHandshake, shaken]
  dsimp only
  split
  · rfl
  · rfl

/-- Only data packets call methods. -/
theorem calls_processKind {p : Packet} (h : p.kind ≠ .data) (board : Switchboard ε) (interval now : Nat)
    (c : Connection) : (c.processKind board interval now p).trace.calls = [] := by
  unfold processKind
  split
  · unfold processHandshake
    split
    · rfl
    · dsimp only
      split
      · rfl
      · rfl
  · unfold processAck
    split
    · rfl
    · rfl
  · rfl
  · next data => exact absurd data h

theorem status_processAck (board : Switchboard ε) (c : Connection) :
    (c.processAck board).connection.status = if c.status = .closed then .closed else .working := by
  by_cases closed : c.status = .closed
  · rw [processAck, acknowledge, moveTo, if_pos closed, if_pos closed]
    exact closed
  · rw [processAck, acknowledge, moveTo, if_neg closed, if_neg closed]

theorem Like.processHandshake {c other : Connection} (like : c.Like other) {board board' : Switchboard ε}
    (same : board.registry.dictionary = board'.registry.dictionary) (interval : Nat) :
    (c.processHandshake board interval).connection.Like
      (other.processHandshake board' interval).connection := by
  by_cases closed : c.status = .closed
  · have closed' : other.status = .closed := like.status ▸ closed
    rw [processHandshake_of_closed board interval closed,
      processHandshake_of_closed board' interval closed']
    exact like
  · have isOpen : other.status ≠ .closed := like.status ▸ closed
    constructor
    · rw [status_processHandshake_of_open board interval closed,
        status_processHandshake_of_open board' interval isOpen]
    · rw [processHandshake_of_open board interval closed,
        processHandshake_of_open board' interval isOpen, like.session, same]

theorem Like.processAck {c other : Connection} (like : c.Like other) (board board' : Switchboard ε) :
    (c.processAck board).connection.Like (other.processAck board').connection where
  status := by rw [status_processAck, status_processAck, like.status]
  session := by rw [session_processAck, session_processAck, like.session]

/-- What a packet does with a connection, and which methods it calls, depends on nobody else. -/
theorem processKind_alike {c other : Connection} (like : c.Like other) {board board' : Switchboard ε}
    (same : board.registry.SameMethods board'.registry) (interval now now' : Nat) (p : Packet) :
    let done := c.processKind board interval now p
    let done' := other.processKind board' interval now' p
    done.connection.Like done'.connection ∧ done.trace.calls = done'.trace.calls := by
  have quiet (h : p.kind ≠ .data) : (c.processKind board interval now p).trace.calls =
      (other.processKind board' interval now' p).trace.calls := by
    rw [calls_processKind h, calls_processKind h]
  obtain ⟨kind, body⟩ := p
  cases kind with
  | handshake => exact ⟨like.processHandshake same.dictionary interval, quiet (by simp)⟩
  | handshakeAck => exact ⟨like.processAck board board', quiet (by simp)⟩
  | heartbeat => exact ⟨⟨like.status, like.session⟩, rfl⟩
  | data =>
      obtain ⟨fate, known⟩ := Fate.exists_of board.registry body
      obtain ⟨kept, left⟩ := processData_leaves known (c.hear now)
      obtain ⟨kept', left'⟩ := processData_leaves (known.congr same) (other.hear now')
      have session : (other.hear now').session = (c.hear now).session := like.session.symm
      have origin : (other.hear now').origin = (c.hear now).origin :=
        congrArg (fun s : Session => Origin.connected s.id) session
      rw [session, origin] at left'
      obtain ⟨sessions, calls⟩ := left.alike same left'
      refine ⟨⟨?_, sessions⟩, calls⟩
      exact (congrArg status kept).trans (like.status.trans (congrArg status kept').symm)

/-- A packet calls methods for its own session alone. -/
theorem session_of_mem_calls {board : Switchboard ε} {interval now : Nat} {c : Connection} {p : Packet}
    {call : Call ε} (mem : call ∈ (c.processKind board interval now p).trace.calls) :
    call.session = c.id := by
  by_cases data : p.kind = .data
  · obtain ⟨fate, known⟩ := Fate.exists_of board.registry p.body
    obtain ⟨-, left⟩ := processData_leaves known (c.hear now)
    simp only [processKind, data] at mem
    exact left.session_of_mem_calls mem
  · rw [calls_processKind data] at mem
    cases mem

end Connection

/-! ## Tables -/

namespace SessionTable

theorem find?_create {t : SessionTable} {id : Nat} {c : Connection} (found : t.find? id = some c)
    (capacity : Nat) (peer : Address) (now : Nat) :
    (t.create capacity peer now).1.find? id = some c := by
  have listed : t.connections.find? (·.id == id) = some c := found
  rw [create, find?, List.find?_append, listed]
  rfl

theorem find?_release_of_ne (t : SessionTable) {id other : Nat} (apart : other ≠ id) :
    (t.release other).1.find? id = t.find? id := by
  unfold release
  split
  · rfl
  · next c held =>
      have named : c.id = other := by simpa using List.find?_some held
      have closed : c.close.1.session = c.session := c.session_moveTo .closed
      have own : ({ c.close.1 with released := true } : Connection).id = other :=
        (congrArg Session.id closed).trans named
      rw [find?_put, own, if_neg (Ne.symm apart)]

end SessionTable

/-! ## Runs -/

namespace Hub

/-- Whatever happens but a registration, or something done to a connection by its own client or its node. -/
def Event.Apart (id : Nat) : Event ε → Prop
  | .register .. => False
  | .release other => other ≠ id
  | .receive origin _ => origin ≠ .connected id
  | .hangUp origin => origin ≠ .connected id
  | .packet .. | .connect .. | .takeForwards _ | .closeForwards | .wait _ => True

instance (id : Nat) : (e : Event ε) → Decidable (e.Apart id)
  | .register .. => .isFalse not_false
  | .release other => inferInstanceAs (Decidable (other ≠ id))
  | .receive origin _ => inferInstanceAs (Decidable (origin ≠ .connected id))
  | .hangUp origin => inferInstanceAs (Decidable (origin ≠ .connected id))
  | .packet .. | .connect .. | .takeForwards _ | .closeForwards | .wait _ => .isTrue trivial

/-- The packet of a connection, if the event is one. -/
def packetOf? (id : Nat) : Event ε → Option Packet
  | .packet other p => if other = id then some p else none
  | _ => none

theorem eq_packet_of_packetOf? {id : Nat} {e : Event ε} {p : Packet} (h : packetOf? id e = some p) :
    e = .packet id p := by
  unfold packetOf? at h
  split at h
  · split at h
    · next same =>
        cases h
        rw [same]
    · cases h
  · cases h

/-- What a connection sends in a run. -/
def packetsOf (id : Nat) (es : List (Event ε)) : List Packet := es.filterMap (packetOf? id)

/-- The handler calls that an event brings about. -/
def called (h : Hub ε) : Event ε → List (Call ε)
  | .packet id p => (h.process id p).2.calls
  | _ => []

def calledAll (h : Hub ε) : List (Event ε) → List (Call ε)
  | [] => []
  | e :: es => h.called e ++ (h.after e).calledAll es

/-- For a connection the hubs are the same. -/
structure Alike (id : Nat) (h other : Hub ε) : Prop where
  settings : h.settings = other.settings
  methods : h.registry.SameMethods other.registry
  connections : ∃ c c', h.table.find? id = some c ∧ other.table.find? id = some c' ∧ c.Like c'

theorem Alike.refl {h : Hub ε} {id : Nat} {c : Connection} (found : h.table.find? id = some c) :
    Alike id h h := ⟨rfl, .refl _, c, c, found, found, rfl, rfl⟩

/-! ### Events of others -/

theorem settings_putSession (h : Hub ε) (origin : Origin) (s : Session) :
    (h.putSession origin s).settings = h.settings := by
  unfold putSession
  split
  · split
    · rfl
    · rfl
  · rfl

theorem settings_onSession {α : Type} (h : Hub ε) (origin : Origin) (f : Session → Session × α) :
    (h.onSession origin f).1.settings = h.settings := by
  unfold onSession
  split
  · rfl
  · exact settings_putSession ..

theorem settings_process (h : Hub ε) (id : Nat) (p : Packet) :
    (h.process id p).1.settings = h.settings := by
  unfold process
  split
  · rfl
  · rfl

theorem settings_withRegistry (h : Hub ε) (r : Registry (Method ε)) :
    (h.withRegistry r).settings = h.settings := rfl

theorem settings_after (h : Hub ε) (e : Event ε) : (h.after e).settings = h.settings := by
  cases e with
  | packet id p => exact h.settings_process id p
  | release id => rw [after, release_eq]
  | receive origin n => exact settings_onSession ..
  | hangUp origin => exact settings_onSession ..
  | register typeName candidates => rw [after, settings_withRegistry]
  | connect | takeForwards | closeForwards | wait => rfl

theorem Event.Apart.methods {id : Nat} {e : Event ε} (apart : e.Apart id) (h : Hub ε) :
    (h.after e).registry.SameMethods h.registry := by
  refine (h.counted_after fun typeName candidates same => ?_).sameMethods
  rw [same] at apart
  cases apart

theorem find?_onSession {h : Hub ε} {f : Session → Session × Unit} (ids : ∀ s, (f s).1.id = s.id)
    {origin : Origin} {id : Nat} (other : origin ≠ .connected id) :
    (h.onSession origin f).1.table.find? id = h.table.find? id := by
  unfold onSession
  split
  · rfl
  · next s found =>
      cases origin with
      | detached index => rfl
      | connected i =>
          cases known : h.table.find? i with
          | none => simp [session?, known] at found
          | some c =>
              have own : c.session = s := by simpa [session?, known] using found
              have put : ({ c with session := (f s).1 } : Connection).id = i := by
                show (f s).1.id = i
                rw [ids, ← own]
                exact SessionTable.id_of_find? known
              have apart : id ≠ i := fun same => other (by rw [same])
              simp only [putSession, known]
              rw [SessionTable.find?_put, put, if_neg apart]

/-- An event apart from a connection does not touch it. -/
theorem Event.Apart.find? {h : Hub ε} {id : Nat} {c : Connection} (found : h.table.find? id = some c)
    {e : Event ε} (apart : e.Apart id) (other : packetOf? id e = none) :
    (h.after e).table.find? id = some c := by
  rw [← found]
  cases e with
  | register typeName candidates => cases apart
  | packet source p =>
      have away : id ≠ source := by
        rintro rfl
        simp [packetOf?] at other
      rw [after]
      cases known : h.table.find? source with
      | none => rw [process_of_unknown known]
      | some c' =>
          have own : (c'.processKind h.board h.settings.heartbeat.interval h.now p).connection.id = source :=
            (Connection.id_processKind ..).trans (SessionTable.id_of_find? known)
          rw [process_of_found known]
          exact (SessionTable.find?_put ..).trans (if_neg (own ▸ away))
  | release source =>
      rw [after, release_eq]
      exact h.table.find?_release_of_ne apart
  | receive origin n => exact find?_onSession (fun _ => rfl) apart
  | hangUp origin => exact find?_onSession (fun _ => rfl) apart
  | connect capacity peer =>
      rw [found]
      exact SessionTable.find?_create found ..
  | takeForwards | closeForwards | wait => rfl

theorem session_of_mem_called {h : Hub ε} {id : Nat} {p : Packet} {call : Call ε}
    (mem : call ∈ (h.process id p).2.calls) : call.session = id := by
  cases found : h.table.find? id with
  | none =>
      rw [process_of_unknown found] at mem
      cases mem
  | some c =>
      rw [process_of_found found] at mem
      exact (Connection.session_of_mem_calls mem).trans (SessionTable.id_of_find? found)

theorem find?_process {h : Hub ε} {id : Nat} {c : Connection} (found : h.table.find? id = some c)
    (p : Packet) :
    (h.process id p).1.table.find? id =
      some (c.processKind h.board h.settings.heartbeat.interval h.now p).connection := by
  have own : (c.processKind h.board h.settings.heartbeat.interval h.now p).connection.id = id :=
    (Connection.id_processKind ..).trans (SessionTable.id_of_find? found)
  rw [process_of_found found]
  refine (SessionTable.find?_put ..).trans ?_
  rw [own, if_pos rfl, found, Option.map_some]

/-! ### Alike hubs -/

variable {id : Nat} {h other : Hub ε}

/-- A packet of the connection has the same effects in both hubs. -/
theorem Alike.process (alike : Alike id h other) (p : Packet) :
    Alike id (h.process id p).1 (other.process id p).1 ∧
      (h.process id p).2.calls = (other.process id p).2.calls := by
  obtain ⟨settings, methods, c, c', found, found', like⟩ := alike
  obtain ⟨like', calls⟩ := Connection.processKind_alike like methods h.settings.heartbeat.interval
    h.now other.now p
  have kept := (h.counted_process id p).sameMethods.trans
    (methods.trans (other.counted_process id p).sameMethods.symm)
  have settings' : (h.process id p).1.settings = (other.process id p).1.settings := by
    rw [settings_process, settings_process, settings]
  refine ⟨⟨settings', kept, _, _, find?_process found p, find?_process found' p, ?_⟩, ?_⟩
  · rw [← settings]
    exact like'
  · rw [process_of_found found, process_of_found found', ← settings]
    exact calls

/-- Nothing that happens apart from the connection makes a difference. -/
theorem Alike.apart (alike : Alike id h other) {e : Event ε} (apart : e.Apart id)
    (foreign : packetOf? id e = none) :
    Alike id (h.after e) other ∧ ∀ call ∈ h.called e, call.session ≠ id := by
  obtain ⟨settings, methods, c, c', found, found', like⟩ := alike
  refine ⟨⟨?_, (apart.methods h).trans methods, c, c', apart.find? found foreign, found', like⟩, ?_⟩
  · rw [settings_after, settings]
  · intro call mem
    cases e with
    | packet source p =>
        rw [session_of_mem_called mem]
        rintro rfl
        simp [packetOf?] at foreign
    | _ => cases mem

/-- A run among others and a run alone go along with each other. -/
theorem Alike.run (alike : Alike id h other) {es : List (Event ε)} (apart : ∀ e ∈ es, e.Apart id) :
    Alike id (h.afterAll es) (other.processAll id (packetsOf id es)).1 ∧
      (h.calledAll es).filter (·.session == id) = (other.processAll id (packetsOf id es)).2.calls := by
  induction es generalizing h other with
  | nil => exact ⟨alike, rfl⟩
  | cons e es ih =>
      have later : ∀ e ∈ es, e.Apart id := fun e mem => apart e (List.mem_cons_of_mem _ mem)
      rw [calledAll, List.filter_append]
      cases own : packetOf? id e with
      | none =>
          obtain ⟨alike', foreign⟩ := alike.apart (apart e List.mem_cons_self) own
          have none : (h.called e).filter (·.session == id) = [] :=
            List.filter_eq_nil_iff.mpr fun call mem => by simpa using foreign call mem
          rw [none, packetsOf, List.filterMap_cons_none own]
          exact ih alike' later
      | some p =>
          obtain rfl := eq_packet_of_packetOf? own
          obtain ⟨alike', calls⟩ := alike.process p
          obtain ⟨ended, called⟩ := ih alike' later
          have all : (h.called (.packet id p)).filter (·.session == id) = (h.process id p).2.calls :=
            List.filter_eq_self.mpr fun call mem => by simpa using session_of_mem_called mem
          rw [all, packetsOf, List.filterMap_cons_some own]
          refine ⟨ended, ?_⟩
          show _ = (other.process id p).2.calls ++ _
          rw [calls]
          exact congrArg (_ ++ ·) called

theorem session?_of_find? {c : Connection} (found : h.table.find? id = some c) :
    h.session? (.connected id) = some c.session := by
  rw [session?, found, Option.map_some]

/-- **Connections do not influence each other.** Take a connection of a hub, and any run in which its own
packets come among those of others, while clients come and go and requests for other nodes are taken or
refused. As long as no service comes in, and nobody takes what is queued for it, it ends with the status and
the session that it gets when its packets are processed alone, and the methods are called for it in the same
way. -/
theorem isolated (h : Hub ε) (id : Nat) (c : Connection) (found : h.table.find? id = some c)
    (es : List (Event ε)) (apart : ∀ e ∈ es, e.Apart id) :
    let alone := h.processAll id (packetsOf id es)
    (∃ among own, (h.afterAll es).table.find? id = some among ∧ alone.1.table.find? id = some own ∧
      among.status = own.status ∧ among.session = own.session) ∧
    (h.calledAll es).filter (·.session == id) = alone.2.calls := by
  intro alone
  obtain ⟨⟨-, -, among, own, found, found', like⟩, called⟩ := (Alike.refl found).run apart
  exact ⟨⟨among, own, found, found', like.status, like.session⟩, called⟩

/-- A client joins a room, while a request of another one panics and a further one finds no other node. -/
theorem isolated_of_join :
    let join : Entry (Method Unit) := ⟨"Join", fun _ body => .respond body fun _ => .done, 0⟩
    let fail : Entry (Method Unit) := ⟨"Fail", fun _ _ => .panic .opaqueValue, 0⟩
    let registry : Registry (Method Unit) := ⟨"chat", [⟨"Room", "Room", [fail, join]⟩], .empty⟩
    let start : Hub Unit := ⟨{}, ⟨registry, .empty 0⟩, .empty, [], 0⟩
    let h := start.afterAll [.connect 4 ⟨.v4 127 0 0 1, 3250⟩, .connect 4 ⟨.v4 127 0 0 1, 3251⟩]
    let joining := [0, 7, 14, 99, 104, 97, 116, 46, 82, 111, 111, 109, 46, 74, 111, 105, 110, 1]
    let failing := [0, 8, 14, 99, 104, 97, 116, 46, 82, 111, 111, 109, 46, 70, 97, 105, 108, 2]
    let moving := [0, 9, 13, 97, 114, 101, 97, 46, 77, 97, 112, 46, 77, 111, 118, 101, 3]
    let es := [.packet 2 ⟨.data, failing⟩, .packet 1 ⟨.data, joining⟩, .packet 2 ⟨.data, moving⟩,
      .release 2]
    (∃ c, h.table.find? 1 = some c) ∧ (∀ e ∈ es, e.Apart 1) ∧
      ((h.calledAll es).filter (·.session == 1)).map (fun call => (call.method, call.pending, call.body)) =
        [("Join", 7, [1])] ∧
      ((h.afterAll es).session? (.connected 1)).map (·.outbound.items) = some [[4, 0, 0, 3, 4, 7, 1]] := by
  intro join fail registry start h joining failing moving es
  obtain ⟨c, found⟩ : ∃ c, h.table.find? 1 = some c := ⟨_, rfl⟩
  have apart : ∀ e ∈ es, e.Apart 1 := by decide
  obtain ⟨⟨among, own, found', alone, -, session⟩, called⟩ := isolated h 1 c found es apart
  refine ⟨⟨c, found⟩, apart, ?_, ?_⟩
  · refine (congrArg (List.map _) called).trans ?_
    decide +kernel
  · have same := (session?_of_find? found').trans
      ((congrArg some session).trans (session?_of_find? alone).symm)
    refine (congrArg (Option.map _) same).trans ?_
    decide +kernel

end Hub

end Connector
