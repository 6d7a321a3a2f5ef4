import Mathlib.Data.List.Induction
import Connector.Proofs.Deliveries
import Connector.Proofs.Isolation

/-! The status of a connection.

* `Hub.Turn`: whatever happens at a hub, with what its application does to connections by itself;
* `Hub.Closes`, `Hub.asked?`: the turns that move the status of a connection;
* `Hub.find?_turn`: one turn moves it as it asks, but never away from closed;
* `Hub.status_of_history`: so the status tells what has happened since the connection was made. -/

namespace Connector

variable {ε : Type}

/-! ## Moves of the status -/

namespace Connection

theorem status_moveTo (c : Connection) (next : Status) :
    (c.moveTo next).1.status = if c.status = .closed then .closed else next := by
  unfold moveTo
  split
  · next closed => exact closed
  · rfl

theorem id_moveTo (c : Connection) (next : Status) : (c.moveTo next).1.id = c.id :=
  congrArg Session.id (c.session_moveTo next)

/-- The status that a packet asks for. -/
def askedBy? (p : Packet) : Option Status :=
  match p.kind with
  | .handshake => some .handshaking
  | .handshakeAck => some .working
  | .heartbeat | .data => none

theorem status_processHandshake (board : Switchboard ε) (interval : Nat) (c : Connection) :
    (c.processHandshake board interval).connection.status =
      if c.status = .closed then .closed else .handshaking := by
  by_cases closed : c.status = .closed
  · rw [processHandshake_of_closed board interval closed, if_pos closed, closed]
  · rw [status_processHandshake_of_open board interval closed, if_neg closed]

theorem status_processKind (board : Switchboard ε) (interval now : Nat) (c : Connection) (p : Packet) :
    (c.processKind board interval now p).connection.status =
      if c.status = .closed then .closed else (askedBy? p).getD c.status := by
  obtain ⟨kind, body⟩ := p
  have kept : c.status = if c.status = .closed then .closed else c.status := by
    split
    · next closed => exact closed
    · rfl
  cases kind with
  | handshake => exact c.status_processHandshake board interval
  | handshakeAck => exact status_processAck board c
  | heartbeat => exact kept
  | data =>
      obtain ⟨fate, known⟩ := Fate.exists_of board.registry body
      obtain ⟨same, -⟩ := processData_leaves known (c.hear now)
      exact (congrArg status same).trans kept

end Connection

/-! ## Handshakes -/

/-- A handshake is hindered by nothing but its length and the queue. -/
theorem Session.hinders_handshake_iff (s : Session) (text : String) :
    (∃ e, s.Hinders (.handshake text) e) ↔
      ¬ (text.utf8ByteSize ≤ 0xffffff ∧ s.outbound.HasRoom) := by
  constructor
  · rintro ⟨e, hinders⟩ ⟨fits, isOpen, room⟩
    cases e with
    | noPendingRequest session => exact nomatch hinders.2
    | routeTooLong cause => exact nomatch hinders
    | unencodable cause => exact absurd hinders.2 (Nat.not_lt.mpr fits)
    | queueFull session => exact absurd hinders.2.2 (Nat.not_le.mpr room)
    | queueClosed session => exact Bool.false_ne_true (isOpen.symm.trans hinders.2)
  · intro h
    by_cases fits : text.utf8ByteSize ≤ 0xffffff
    · cases closed : s.outbound.closed with
      | true => exact ⟨.queueClosed s.id, rfl, closed⟩
      | false =>
          refine ⟨.queueFull s.id, rfl, closed, Nat.le_of_not_lt fun room => ?_⟩
          exact h ⟨fits, closed, room⟩
    · exact ⟨.unencodable (.unencodable text.utf8ByteSize), rfl, Nat.lt_of_not_le fits⟩

namespace Connection

/-- What a handshake leaves of a connection, with the levels of what is said about it. -/
def Greeted (c : Connection) (text : String) (later : Connection) (said : List Level) : Prop :=
  if c.status = .closed then later = c ∧ said = [.debug]
  else later.status = .handshaking ∧
    if text.utf8ByteSize ≤ 0xffffff ∧ c.session.outbound.HasRoom then
      said = [] ∧ ∃ octets, Packet.encode ⟨.handshake, Bytes.ofString text⟩ = .ok octets ∧
        later.session = c.session.queue [octets]
    else said = [.error] ∧ later.session = c.session

theorem greeted_processHandshake (board : Switchboard ε) (interval : Nat) (c : Connection) :
    let done := c.processHandshake board interval
    c.Greeted (handshakeText interval board.registry.dictionary) done.connection done.trace.levels := by
  unfold Greeted
  by_cases closed : c.status = .closed
  · have refused : c.handshake = (c, false) := if_pos closed
    rw [if_pos closed, processHandshake, refused]
    exact ⟨rfl, rfl⟩
  · have shaken : c.handshake = ({ c with status := .handshaking }, true) := if_neg closed
    have sends := c.session.sends_handshake (handshakeText interval board.registry.dictionary)
    have hindered := c.session.hinders_handshake_iff (handshakeText interval board.registry.dictionary)
    rw [if_neg closed, processHandshake, shaken]
    dsimp only at sends ⊢
    generalize c.session.sendPacket _ = sent at sends ⊢
    obtain ⟨session, outcome⟩ := sent
    rcases sends with ⟨rfl, free, octets, ⟨p, encoded, rfl⟩, rfl⟩ | ⟨e, rfl, hinders, rfl⟩
    · rw [if_pos (by_contra fun h => not_exists.mpr free (hindered.mpr h))]
      exact ⟨rfl, rfl, octets, encoded, rfl⟩
    · rw [if_neg (hindered.mp ⟨e, hinders⟩)]
      exact ⟨rfl, rfl, rfl⟩

end Connection

/-! ## Turns -/

namespace Hub

/-- Beside what happens at a hub, its application may move the status of a connection, and route and
dispatch messages. -/
inductive Turn (ε : Type) where
  | event (e : Event ε)
  | handshake (id : Nat)
  | acknowledge (id : Nat)
  | close (id : Nat)
  | route (origin : Origin) (m : Message)
  | dispatch (origin : Origin) (route : Route) (body : Bytes)

def turn (h : Hub ε) : Turn ε → Hub ε
  | .event e => h.after e
  | .handshake id => (h.onConnection id Connection.handshake).1
  | .acknowledge id => (h.onConnection id Connection.acknowledge).1
  | .close id => (h.onConnection id Connection.close).1
  | .route origin m => (h.route origin m).1
  | .dispatch origin route body => (h.dispatch origin route body).1

def turnAll (h : Hub ε) (turns : List (Turn ε)) : Hub ε := turns.foldl turn h

/-- A turn that closes the connection. A release does as long as the table holds it. -/
def Closes (h : Hub ε) (id : Nat) : Turn ε → Prop
  | .close other => other = id
  | .event (.release other) => other = id ∧ (h.release id).2.1.isSome = true
  | _ => False

/-- The status that a turn asks for. -/
def asked? (id : Nat) : Turn ε → Option Status
  | .handshake other => if other = id then some .handshaking else none
  | .acknowledge other => if other = id then some .working else none
  | .event (.packet other p) => if other = id then Connection.askedBy? p else none
  | _ => none

/-! ### What is found afterwards -/

theorem find?_onConnection {α : Type} {f : Connection → Connection × α} (ids : ∀ c, (f c).1.id = c.id)
    (h : Hub ε) (other id : Nat) :
    (h.onConnection other f).1.table.find? id =
      if id = other then (h.table.find? id).map (f · |>.1) else h.table.find? id := by
  unfold onConnection
  cases known : h.table.find? other with
  | none =>
      by_cases same : id = other
      · rw [if_pos same, same]
        simp [known]
      · rw [if_neg same]
  | some c =>
      have own : (f c).1.id = other := (ids c).trans (SessionTable.id_of_find? known)
      simp only [SessionTable.find?_put, own]
      by_cases same : id = other
      · rw [if_pos same, if_pos same, same, known]
        rfl
      · rw [if_neg same, if_neg same]

theorem onConnection_told {α : Type} (f : Connection → Connection × α) {h : Hub ε} {id : Nat}
    {c : Connection} (found : h.table.find? id = some c) : (h.onConnection id f).2 = some (f c).2 := by
  rw [onConnection, found]

theorem status_putSession {h : Hub ε} {origin : Origin} {s : Session}
    (own : ∀ i, origin = .connected i → s.id = i) {id : Nat} {c : Connection}
    (found : h.table.find? id = some c) :
    ∃ later, (h.putSession origin s).table.find? id = some later ∧ later.status = c.status := by
  cases origin with
  | detached index => exact ⟨c, found, rfl⟩
  | connected i =>
      simp only [putSession]
      cases known : h.table.find? i with
      | none => exact ⟨c, found, rfl⟩
      | some other =>
          have put : ({ other with session := s } : Connection).id = i := own i rfl
          simp only [SessionTable.find?_put, put]
          by_cases same : id = i
          · subst same
            rw [found] at known
            cases known
            exact ⟨{ c with session := s }, by rw [if_pos rfl, found]; rfl, rfl⟩
          · exact ⟨c, by rw [if_neg same, found], rfl⟩

theorem id_of_session? {h : Hub ε} {i : Nat} {s : Session} (found : h.session? (.connected i) = some s) :
    s.id = i := by
  obtain ⟨c, known, rfl⟩ := Option.map_eq_some_iff.mp found
  exact SessionTable.id_of_find? known

theorem status_onSession {α : Type} {h : Hub ε} {f : Session → Session × α}
    (ids : ∀ s, (f s).1.id = s.id) (origin : Origin) {id : Nat} {c : Connection}
    (found : h.table.find? id = some c) :
    ∃ later, (h.onSession origin f).1.table.find? id = some later ∧ later.status = c.status := by
  unfold onSession
  split
  · exact ⟨c, found, rfl⟩
  · next s known =>
      refine status_putSession ?_ found
      rintro i rfl
      exact (ids s).trans (id_of_session? known)

theorem status_routed {h : Hub ε} {origin : Origin} {s : Session} (known : h.session? origin = some s)
    {r : Routed ε} (same : r.session.id = s.id) {id : Nat} {c : Connection}
    (found : h.table.find? id = some c) :
    ∃ later, (h.routed origin r).table.find? id = some later ∧ later.status = c.status := by
  refine status_putSession (h := { h with board := r.board }) ?_ found
  rintro i rfl
  exact same.trans (id_of_session? known)

/-- A release that is not effective leaves everything as it is, the other one closes its connection. -/
theorem find?_release {h : Hub ε} (numbered : h.table.Numbered) {id : Nat} {c : Connection}
    (found : h.table.find? id = some c) :
    if (h.release id).2.1.isSome then
      (h.release id).1.table.find? id = some { c.close.1 with released := true }
    else (h.release id).1 = h := by
  unfold release SessionTable.release
  cases held : h.table.get? id with
  | none => simp
  | some other =>
      have same := numbered.find?_of_get? held
      rw [found] at same
      cases same
      have own : ({ c.close.1 with released := true } : Connection).id = id :=
        (c.id_moveTo .closed).trans (SessionTable.id_of_find? found)
      simp [SessionTable.find?_put, own, found]

/-! ### One turn -/

/-- The hub has a connection with the status that was asked for, or that it had if none was. Closed stays.
-/
def HasMoved (later : Hub ε) (id : Nat) (before : Status) (asked : Option Status) : Prop :=
  ∃ c, later.table.find? id = some c ∧
    c.status = if before = .closed then .closed else asked.getD before

theorem HasMoved.of_same {later : Hub ε} {id : Nat} {status : Status}
    (found : ∃ c, later.table.find? id = some c ∧ c.status = status) :
    later.HasMoved id status none := by
  obtain ⟨c, found, rfl⟩ := found
  refine ⟨c, found, ?_⟩
  split
  · next closed => exact closed
  · rfl

theorem HasMoved.of_moveTo {h : Hub ε} {id : Nat} {c : Connection} (found : h.table.find? id = some c)
    (other : Nat) (next : Status) :
    (h.onConnection other (·.moveTo next)).1.HasMoved id c.status
      (if other = id then some next else none) := by
  have after := find?_onConnection (fun c => c.id_moveTo next) h other id
  by_cases same : other = id
  · rw [if_pos same]
    rw [if_pos same.symm, found, Option.map_some] at after
    exact ⟨_, after, c.status_moveTo next⟩
  · rw [if_neg same]
    rw [if_neg (Ne.symm same), found] at after
    exact .of_same ⟨c, after, rfl⟩

theorem HasMoved.of_event {h : Hub ε} (numbered : h.table.Numbered) {id : Nat} {c : Connection}
    (found : h.table.find? id = some c) {e : Event ε} (unclosed : ¬ h.Closes id (.event e)) :
    (h.after e).HasMoved id c.status (asked? id (.event e)) := by
  cases e with
  | packet other p =>
      by_cases same : other = id
      · subst same
        refine ⟨_, find?_process found p, ?_⟩
        rw [asked?, if_pos rfl]
        exact c.status_processKind h.board h.settings.heartbeat.interval h.now p
      · rw [asked?, if_neg same]
        exact .of_same ⟨c, Event.Apart.find? found trivial (if_neg same), rfl⟩
  | release other =>
      by_cases same : other = id
      · subst same
        have kept := find?_release numbered found
        rw [if_neg (fun effective => unclosed ⟨rfl, effective⟩)] at kept
        exact .of_same ⟨c, by rw [after, kept, found], rfl⟩
      · exact .of_same ⟨c, Event.Apart.find? found same rfl, rfl⟩
  | receive origin n => exact .of_same (status_onSession (fun _ => rfl) origin found)
  | hangUp origin => exact .of_same (status_onSession (fun _ => rfl) origin found)
  | register typeName candidates =>
      refine .of_same ⟨c, ?_, rfl⟩
      rw [after, table_withRegistry, found]
  | connect capacity peer =>
      exact .of_same ⟨c, SessionTable.find?_create found capacity peer h.now, rfl⟩
  | takeForwards | closeForwards | wait => exact .of_same ⟨c, found, rfl⟩

/-- A turn that does not close a connection moves its status as it asks. -/
theorem find?_turn {h : Hub ε} (numbered : h.table.Numbered) {id : Nat} {c : Connection}
    (found : h.table.find? id = some c) {t : Turn ε} (unclosed : ¬ h.Closes id t) :
    (h.turn t).HasMoved id c.status (asked? id t) := by
  cases t with
  | event e => exact .of_event numbered found unclosed
  | handshake other => exact .of_moveTo found other .handshaking
  | acknowledge other => exact .of_moveTo found other .working
  | close other =>
      have apart : ¬ other = id := unclosed
      have moved := HasMoved.of_moveTo found other .closed
      rwa [if_neg apart] at moved
  | route origin m =>
      simp only [turn, route]
      split
      · exact .of_same ⟨c, found, rfl⟩
      · next known => exact .of_same (status_routed known (Switchboard.id_route ..) found)
  | dispatch origin route body =>
      simp only [turn, dispatch]
      split
      · exact .of_same ⟨c, found, rfl⟩
      · next known => exact .of_same (status_routed known (Switchboard.id_dispatch ..) found)

theorem find?_turn_of_closes {h : Hub ε} (numbered : h.table.Numbered) {id : Nat} {c : Connection}
    (found : h.table.find? id = some c) {t : Turn ε} (closes : h.Closes id t) :
    ∃ c', (h.turn t).table.find? id = some c' ∧ c'.status = .closed := by
  cases t with
  | close other =>
      obtain rfl : other = id := closes
      obtain ⟨c', found', moved⟩ := HasMoved.of_moveTo found other .closed
      refine ⟨c', found', ?_⟩
      rw [moved, if_pos rfl]
      split
      · rfl
      · rfl
  | event e =>
      cases e with
      | release other =>
          obtain ⟨rfl, effective⟩ := closes
          have gone := find?_release numbered found
          rw [if_pos effective] at gone
          refine ⟨_, gone, (c.status_moveTo .closed).trans ?_⟩
          split
          · rfl
          · rfl
      | _ => cases closes
  | _ => cases closes

theorem numbered_routed {h : Hub ε} (numbered : h.table.Numbered) (origin : Origin) (r : Routed ε) :
    (h.routed origin r).table.Numbered := by
  have same : ({ h with board := r.board } : Hub ε).table.Numbered := numbered
  exact numbered_putSession same origin r.session

theorem numbered_turn {h : Hub ε} (numbered : h.table.Numbered) (t : Turn ε) :
    (h.turn t).table.Numbered := by
  have onConnection {other : Nat} {f : Connection → Connection × Bool} :
      (h.onConnection other f).1.table.Numbered := by
    unfold Hub.onConnection
    split
    · exact numbered
    · exact numbered.put _
  cases t with
  | event e => exact numbered_after numbered e
  | handshake | acknowledge | close => exact onConnection
  | route origin m =>
      simp only [turn, route]
      split
      · exact numbered
      · exact numbered_routed numbered ..
  | dispatch origin route body =>
      simp only [turn, dispatch]
      split
      · exact numbered
      · exact numbered_routed numbered ..

/-! ### Histories -/

/-- Some turn closed the connection. -/
def WasClosed (start : Hub ε) (id : Nat) (turns : List (Turn ε)) : Prop :=
  ∃ before t later, turns = before ++ t :: later ∧ (start.turnAll before).Closes id t

/-- An acknowledgement came and no handshake after it. -/
def WasAcknowledged (id : Nat) (turns : List (Turn ε)) : Prop :=
  ∃ before t later, turns = before ++ t :: later ∧ asked? id t = some .working ∧
    ∀ u ∈ later, asked? id u ≠ some .handshaking

theorem turnAll_concat (start : Hub ε) (turns : List (Turn ε)) (t : Turn ε) :
    start.turnAll (turns ++ [t]) = (start.turnAll turns).turn t := by
  rw [turnAll, List.foldl_append]
  rfl

theorem wasClosed_concat (start : Hub ε) (id : Nat) (turns : List (Turn ε)) (t : Turn ε) :
    start.WasClosed id (turns ++ [t]) ↔
      (start.turnAll turns).Closes id t ∨ start.WasClosed id turns :=
  exists_split_concat (P := fun before t _ => (start.turnAll before).Closes id t) turns t

theorem wasAcknowledged_concat (id : Nat) (turns : List (Turn ε)) (t : Turn ε) :
    WasAcknowledged id (turns ++ [t]) ↔
      asked? id t = some .working ∨ asked? id t ≠ some .handshaking ∧ WasAcknowledged id turns := by
  have split := exists_split_concat (P := fun _ (t : Turn ε) later => asked? id t = some .working ∧
    ∀ u ∈ later, asked? id u ≠ some .handshaking) turns t
  refine split.trans (or_congr (by simp) ?_)
  constructor
  · rintro ⟨before, u, later, same, acked, quiet⟩
    exact ⟨quiet t (by simp), before, u, later, same, acked, fun w mem => quiet w (by simp [mem])⟩
  · rintro ⟨last, before, u, later, same, acked, quiet⟩
    refine ⟨before, u, later, same, acked, fun w mem => ?_⟩
    rcases List.mem_append.mp mem with mem | mem
    · exact quiet w mem
    · rwa [List.mem_singleton.mp mem]

theorem asked?_cases (id : Nat) (t : Turn ε) :
    asked? id t = none ∨ asked? id t = some .handshaking ∨ asked? id t = some .working := by
  unfold asked? Connection.askedBy?
  repeat' split
  all_goals simp

theorem status_turnAll {start : Hub ε} (numbered : start.table.Numbered) {id : Nat} {c : Connection}
    (found : start.table.find? id = some c) (begun : c.status = .handshaking) (turns : List (Turn ε)) :
    (start.turnAll turns).table.Numbered ∧
      ∃ now, (start.turnAll turns).table.find? id = some now ∧
        (now.status = .closed ↔ start.WasClosed id turns) ∧
        (now.status ≠ .closed → (now.status = .working ↔ WasAcknowledged id turns)) := by
  -- A history grows at its end: what counts is whether anything came after.
  induction turns using List.reverseRecOn with
  | nil =>
      refine ⟨numbered, c, found, ?_, fun _ => ?_⟩
      · simp [begun, WasClosed]
      · simp [begun, WasAcknowledged]
  | append_singleton turns t ih =>
      obtain ⟨numbered, now, found, closed, working⟩ := ih
      rw [turnAll_concat, wasClosed_concat, wasAcknowledged_concat]
      refine ⟨numbered_turn numbered t, ?_⟩
      by_cases closes : (start.turnAll turns).Closes id t
      · obtain ⟨c', found', status⟩ := find?_turn_of_closes numbered found closes
        exact ⟨c', found', by simp [status, closes], by simp [status]⟩
      · obtain ⟨c', found', status⟩ := find?_turn numbered found closes
        refine ⟨c', found', ?_⟩
        by_cases before : now.status = .closed
        · rw [if_pos before] at status
          exact ⟨by simp [status, closed.mp before], by simp [status]⟩
        · rw [if_neg before] at status
          have unclosed : ¬ start.WasClosed id turns := fun was => before (closed.mpr was)
          have acknowledged := working before
          rcases asked?_cases id t with asked | asked | asked
          all_goals rw [asked] at status ⊢
          all_goals simp only [Option.getD_none, Option.getD_some] at status
          · simp [status, closes, unclosed, before, acknowledged]
          · simp [status, closes, unclosed]
          · simp [status, closes, unclosed]

theorem process_handshake {h : Hub ε} {id : Nat} {c : Connection} (found : h.table.find? id = some c)
    (body : Bytes) :
    let processed := h.process id ⟨.handshake, body⟩
    ∃ later said, processed.1.table.find? id = some later ∧ processed.2.levels = .trace :: said ∧
      c.Greeted (handshakeText h.settings.heartbeat.interval h.registry.dictionary) later said := by
  have greeted := c.greeted_processHandshake h.board h.settings.heartbeat.interval
  refine ⟨_, _, find?_process found ⟨.handshake, body⟩, ?_, greeted⟩
  rw [process_of_found found]
  rfl

theorem moveTo_told (c : Connection) (next : Status) :
    (c.moveTo next).2 = !decide (c.status = .closed) := by
  unfold Connection.moveTo
  split
  · next closed => simp [closed]
  · next closed => simp [closed]

/-- **The status of a connection is decided by its history.** From the moment that it is made, whatever
happens at its hub: it is closed just when some turn closed it, and for good. If none did it is working
just when an acknowledgement came after the last handshake, and handshaking otherwise. Anything else, like
a packet with data or a sign of life, or what a handler does, leaves the status as it is. A close tells
that it took place if it is the first, a handshake or an acknowledgement unless the connection is closed.
A handshake packet is answered with one packet, if the connection is not closed, its text is short enough
and the queue takes it; and if that fails, the status has moved all the same. -/
theorem status_of_history (h : Hub ε) (numbered : h.table.Numbered) (capacity : Nat) (peer : Address)
    (turns : List (Turn ε)) :
    let start := (h.connect capacity peer).1
    let id := (h.connect capacity peer).2.1.id
    let now := start.turnAll turns
    ∃ c, now.table.find? id = some c ∧
      (c.status = .closed ↔ start.WasClosed id turns) ∧
      (c.status = .working ↔ ¬ start.WasClosed id turns ∧ WasAcknowledged id turns) ∧
      (c.status = .handshaking ↔ ¬ start.WasClosed id turns ∧ ¬ WasAcknowledged id turns) ∧
      (∀ t, ¬ now.Closes id t → asked? id t = none →
        ∃ later, (now.turn t).table.find? id = some later ∧ later.status = c.status) ∧
      (∃ took, (now.onConnection id Connection.close).2 = some took ∧
        (took = true ↔ ¬ start.WasClosed id turns)) ∧
      (∃ took, (now.onConnection id Connection.handshake).2 = some took ∧
        (took = false ↔ c.status = .closed)) ∧
      (∃ took, (now.onConnection id Connection.acknowledge).2 = some took ∧
        (took = false ↔ c.status = .closed)) ∧
      ∀ body, ∃ later said, (now.process id ⟨.handshake, body⟩).1.table.find? id = some later ∧
        (now.process id ⟨.handshake, body⟩).2.levels = .trace :: said ∧
        c.Greeted (handshakeText now.settings.heartbeat.interval now.registry.dictionary) later said := by
  intro start id now
  have made : start.table.find? id = some (Connection.new id capacity peer h.now) :=
    numbered.find?_created capacity peer h.now
  obtain ⟨numbered, c, found, closed, working⟩ :=
    status_turnAll (numbered.create capacity peer h.now) made rfl turns
  refine ⟨c, found, closed, ?_, ?_, ?_, ?_, ?_, ?_, process_handshake found⟩
  · rw [← closed]
    constructor
    · intro works
      have unclosed : c.status ≠ .closed := by simp [works]
      exact ⟨unclosed, (working unclosed).mp works⟩
    · rintro ⟨unclosed, acknowledged⟩
      exact (working unclosed).mpr acknowledged
  · rw [← closed]
    constructor
    · intro shakes
      have unclosed : c.status ≠ .closed := by simp [shakes]
      refine ⟨unclosed, fun acknowledged => ?_⟩
      have works := (working unclosed).mpr acknowledged
      rw [shakes] at works
      cases works
    · rintro ⟨unclosed, unacknowledged⟩
      cases status : c.status with
      | handshaking => rfl
      | working => exact absurd ((working unclosed).mp status) unacknowledged
      | closed => exact absurd status unclosed
  · intro t unclosed quiet
    obtain ⟨later, found', status⟩ := find?_turn numbered found unclosed
    rw [quiet, Option.getD_none] at status
    refine ⟨later, found', status.trans ?_⟩
    split
    · next closed => exact closed.symm
    · rfl
  · refine ⟨_, onConnection_told _ found, ?_⟩
    rw [← closed, Connection.close, moveTo_told]
    simp
  · refine ⟨_, onConnection_told _ found, ?_⟩
    rw [Connection.handshake, moveTo_told]
    simp
  · refine ⟨_, onConnection_told _ found, ?_⟩
    rw [Connection.acknowledge, moveTo_told]
    simp

/-- A client that shakes hands and acknowledges, asks for another handshake, for which there is no room,
and goes away. A late acknowledgement does not bring it back. -/
theorem status_of_history_of_release :
    let h : Hub Unit := ⟨{}, ⟨.empty "chat", .empty 1⟩, .empty, [], 0⟩
    let start := (h.connect 1 ⟨.v4 127 0 0 1, 3250⟩).1
    let turns := [.event (.packet 1 ⟨.handshake, []⟩), .event (.packet 1 ⟨.handshakeAck, []⟩),
      .event (.packet 1 ⟨.handshake, []⟩), .event (.release 1), .acknowledge 1]
    h.table.Numbered ∧ start.WasClosed 1 turns ∧
      ∃ c, (start.turnAll turns).table.find? 1 = some c ∧ c.status = .closed := by
  intro h start turns
  have released : start.WasClosed 1 turns :=
    ⟨turns.take 3, .event (.release 1), [.acknowledge 1], rfl, rfl, by decide +kernel⟩
  obtain ⟨c, found, closed, -⟩ := status_of_history h rfl 1 ⟨.v4 127 0 0 1, 3250⟩ turns
  exact ⟨rfl, released, c, found, closed.mpr released⟩

end Hub

end Connector
