import Connector.Proofs.Frames
import Connector.Proofs.Moves
import Connector.Proofs.Sessions

/-! Answers and what they answer to. The pending id of a session outlives the message that set it, so a
stale one is often there.

* `IsAnswer`: octets that a client reads as a response with an id;
* `Registry.KeepsIds`, `Hub.keepsIds_after`: no method sets an id to answer to, now and after every event;
* `Connection.processKind_answers`: a packet queues answers only with the id of the request in it;
* `Hub.process_outbound`, `Hub.after_outbound_suffix`: the same for all sessions, and nothing else puts
  anything into their queues;
* `Hub.answers_to_requests`: the same for a run, up to what the clients get. -/

namespace Connector

variable {ε : Type}

/-! ## Reading -/

theorem Packet.encode_inj {p q : Packet} {octets : Bytes} (h : p.encode = .ok octets)
    (h' : q.encode = .ok octets) : p = q := by
  obtain ⟨fits, same⟩ := (Framing.encode_eq_ok_iff p octets).mp h
  obtain ⟨fits', same'⟩ := (Framing.encode_eq_ok_iff q octets).mp h'
  have octets_eq : (Framing.Frame.ofPacket p fits).octets ++ [] =
      (Framing.Frame.ofPacket q fits').octets ++ [] := by
    rw [← same, ← same']
  have frames := (Framing.Frame.octets_append_inj octets_eq).1
  have packets := congrArg Framing.Frame.packet? frames
  simpa using packets

/-- Octets that can be read as a response with an id, by whatever dictionary. -/
def IsAnswer (id : UInt64) (octets : Bytes) : Prop :=
  ∃ body d m, Packet.encode ⟨.data, body⟩ = .ok octets ∧ Message.decode d body = .ok m ∧
    m.kind = .response ∧ m.id = id

theorem IsAnswer.kind_eq_data {id : UInt64} {octets : Bytes} (answer : IsAnswer id octets) {p : Packet}
    (encoded : p.encode = .ok octets) : p.kind = .data := by
  obtain ⟨body, -, -, encoded', -⟩ := answer
  rw [Packet.encode_inj encoded encoded']

theorem IsAnswer.of_sentAs {id : UInt64} {octets : Bytes} (answer : IsAnswer id octets) {m : Message}
    (sent : m.SentAs octets) : m.kind = .response ∧ m.id = id := by
  obtain ⟨body, d, m', encoded, read, kind, ids⟩ := answer
  obtain ⟨body', written, encoded'⟩ := sent
  cases Packet.encode_inj encoded encoded'
  rw [Message.decode_of_encode_none written d] at read
  cases read
  have response : m.kind = .response := kind
  refine ⟨response, ?_⟩
  simpa [Message.normal, response, MessageKind.hasId] using ids

theorem HandlerSends.answer {pending id : UInt64} {octets : Bytes} (sends : HandlerSends pending octets)
    (answer : IsAnswer id octets) : pending ≠ Session.noPending ∧ pending = id := by
  rcases sends with ⟨route, body, pushed⟩ | ⟨waits, body, responded⟩
  · cases (answer.of_sentAs pushed).1
  · exact ⟨waits, (answer.of_sentAs responded).2⟩

/-! ## Methods that answer what they are asked -/

namespace Registry

/-- No method gives its session an id to answer to. -/
def KeepsIds (r : Registry (Method ε)) : Prop :=
  ∀ service ∈ r.services, ∀ e ∈ service.entries, ∀ s body, (e.method s body).KeepsId

variable {r later : Registry (Method ε)}

theorem KeepsIds.program (keeps : r.KeepsIds) {service method : String} {e : Entry (Method ε)}
    (found : r.find? service method = some e) (s : Session) (body : Bytes) : (e.method s body).KeepsId := by
  obtain ⟨known, served, found⟩ := Option.bind_eq_some_iff.mp found
  exact keeps known (List.mem_of_find?_eq_some served) e (List.mem_of_find?_eq_some found) s body

theorem KeepsIds.counted (keeps : r.KeepsIds) (counted : r.Counted later) : later.KeepsIds := by
  cases counted with
  | none => exact keeps
  | one service method =>
      intro known mem e mem' s body
      obtain ⟨old, was, rfl⟩ := List.mem_map.mp mem
      split at mem'
      · obtain ⟨e, was', rfl⟩ := List.mem_map.mp mem'
        have kept := keeps old was e was' s body
        split
        · exact kept
        · exact kept
      · exact keeps old was e mem' s body

theorem KeepsIds.register (keeps : r.KeepsIds) (typeName : String)
    {candidates : List (Candidate (Method ε))}
    (offered : ∀ c ∈ candidates, ∀ method, c.shape = .handler method → ∀ s body, (method s body).KeepsId) :
    (r.register typeName candidates).registry.KeepsIds := by
  rcases r.register_cases typeName candidates with ⟨-, -, same, -⟩ | ⟨-, -, joined⟩
  · rw [same]
    exact keeps
  · rw [joined]
    intro known mem e mem'
    rcases List.mem_append.mp mem with old | new
    · exact keeps known old e mem'
    · obtain rfl := List.mem_singleton.mp new
      obtain ⟨-, before, c, after, rfl, offers, -⟩ := (mem_uncalled_iff candidates e).mp mem'
      exact offered c (by simp) e.method offers.2.2

end Registry

/-- A registration brings in no method that gives its session an id to answer to. -/
def Hub.Event.KeepsIds : Event ε → Prop
  | .register _ candidates =>
      ∀ c ∈ candidates, ∀ method, c.shape = .handler method → ∀ s body, (method s body).KeepsId
  | _ => True

namespace Hub

theorem keepsIds_after {h : Hub ε} (keeps : h.registry.KeepsIds) {e : Event ε} (allowed : e.KeepsIds) :
    (h.after e).registry.KeepsIds := by
  cases e with
  | register typeName candidates =>
      rw [after, registry_withRegistry]
      exact keeps.register typeName allowed
  | connect | release | packet | receive | hangUp | takeForwards | closeForwards | wait =>
      refine keeps.counted (h.counted_after ?_)
      intro typeName candidates other
      cases other

theorem keepsIds_afterAll {h : Hub ε} (keeps : h.registry.KeepsIds) {es : List (Event ε)}
    (allowed : ∀ e ∈ es, e.KeepsIds) : (h.afterAll es).registry.KeepsIds := by
  induction es generalizing h with
  | nil => exact keeps
  | cons e es ih =>
      obtain ⟨first, rest⟩ := List.forall_mem_cons.mp allowed
      exact ih (keepsIds_after keeps first) rest

end Hub

/-! ## Packets -/

/-- A packet with a request that a method of this node is to answer. -/
def Packet.Requests (r : Registry (Method ε)) (p : Packet) (id : UInt64) : Prop :=
  p.kind = .data ∧ ∃ m route, (Fate.dispatched m route).Of r p.body ∧ m.kind = .request ∧ m.id = id

/-- The only answers among buffers are those to a packet. -/
def AnswersTo (r : Registry (Method ε)) (p : Packet) (buffers : List Bytes) : Prop :=
  ∀ octets ∈ buffers, ∀ id, IsAnswer id octets → id ≠ Session.noPending ∧ p.Requests r id

theorem answersTo_nil (r : Registry (Method ε)) (p : Packet) : AnswersTo r p [] := by
  intro octets mem
  cases mem

/-- A session that is dispatched is served under the id of the message. The others get nothing. -/
theorem Fate.Leaves.outbound {fate : Fate} {b : Switchboard ε} {origin : Origin} {s : Session}
    {after : Routed ε} (keeps : b.registry.KeepsIds) (left : fate.Leaves b origin s after) :
    (∃ m route, fate = .dispatched m route ∧ (s.setPending m.awaited).Served after.session) ∨
      after.session.outbound = s.outbound := by
  cases fate with
  | undecodable cause => exact .inr (congrArg Session.outbound left.2.1)
  | refused m => exact .inr (congrArg Session.outbound left.2.1)
  | forwarded m route => exact .inr ((congrArg Session.outbound left.2.1).trans rfl)
  | dispatched m route =>
      obtain ⟨-, left⟩ := left
      split at left
      · exact .inr ((congrArg Session.outbound left.2.1).trans rfl)
      · next entry found =>
          obtain ⟨-, session, -⟩ := left
          refine .inl ⟨m, route, rfl, ?_⟩
          rw [session]
          exact Program.run_served (keeps.program found _ _) _

theorem Connection.processData_answers {board : Switchboard ε} (keeps : board.registry.KeepsIds)
    (c : Connection) (body : Bytes) :
    ∃ buffers, (c.processData board body).connection.session.outbound =
      c.session.outbound.extend buffers ∧ AnswersTo board.registry ⟨.data, body⟩ buffers := by
  obtain ⟨fate, known⟩ := Fate.exists_of board.registry body
  obtain ⟨-, left⟩ := processData_leaves known c
  rcases left.outbound keeps with ⟨m, route, rfl, buffers, -, queued, sends⟩ | same
  · refine ⟨buffers, queued, ?_⟩
    intro octets mem id answer
    obtain ⟨waits, ids⟩ := (sends octets mem).answer answer
    obtain ⟨request, own⟩ := Message.awaited_ne waits
    exact ⟨ids ▸ waits, rfl, m, route, known, request, own.symm.trans ids⟩
  · exact ⟨[], by rw [Queue.extend_nil]; exact same, answersTo_nil _ _⟩

theorem Connection.processHandshake_answers (board : Switchboard ε) (interval : Nat) (c : Connection)
    (p : Packet) :
    ∃ buffers, (c.processHandshake board interval).connection.session.outbound =
      c.session.outbound.extend buffers ∧ AnswersTo board.registry p buffers := by
  by_cases closed : c.status = .closed
  · refine ⟨[], ?_, answersTo_nil _ _⟩
    rw [Queue.extend_nil, processHandshake_of_closed board interval closed]
  · rw [processHandshake_of_open board interval closed]
    rcases c.session.sendPacket_cases
        ⟨.handshake, Bytes.ofString (handshakeText interval board.registry.dictionary)⟩ with
      ⟨e, refused⟩ | ⟨octets, encoded, queued⟩
    · refine ⟨[], ?_, answersTo_nil _ _⟩
      rw [refused, Queue.extend_nil]
    · refine ⟨[octets], ?_, ?_⟩
      · rw [queued]
        rfl
      · intro other mem id answer
        obtain rfl := List.mem_singleton.mp mem
        cases answer.kind_eq_data encoded

theorem Connection.processKind_answers {board : Switchboard ε} (keeps : board.registry.KeepsIds)
    (interval now : Nat) (c : Connection) (p : Packet) :
    ∃ buffers, (c.processKind board interval now p).connection.session.outbound =
      c.session.outbound.extend buffers ∧ AnswersTo board.registry p buffers := by
  obtain ⟨kind, body⟩ := p
  cases kind with
  | handshake => exact processHandshake_answers board interval c _
  | handshakeAck =>
      refine ⟨[], ?_, answersTo_nil _ _⟩
      rw [Queue.extend_nil]
      exact congrArg Session.outbound (session_processAck board c)
  | heartbeat => exact ⟨[], (Queue.extend_nil _).symm, answersTo_nil _ _⟩
  | data => exact processData_answers keeps (c.hear now) body

/-! ## Events -/

namespace Hub

/-- What is queued for the client of a session. -/
def outbound (h : Hub ε) (origin : Origin) : List Bytes :=
  ((h.session? origin).map (·.outbound.items)).getD []

theorem outbound_eq {h : Hub ε} {origin : Origin} {s : Session} (found : h.session? origin = some s) :
    h.outbound origin = s.outbound.items := by
  rw [outbound, found]
  rfl

theorem outbound_congr {h later : Hub ε} {origin : Origin}
    (same : later.session? origin = h.session? origin) : later.outbound origin = h.outbound origin := by
  rw [outbound, outbound, same]

theorem outbound_suffix {h later : Hub ε} {origin : Origin}
    (same : later.session? origin = h.session? origin) :
    later.outbound origin <:+ h.outbound origin :=
  outbound_congr same ▸ List.suffix_refl (later.outbound origin)

theorem process_outbound {h : Hub ε} (keeps : h.registry.KeepsIds) (id : Nat) (p : Packet)
    (origin : Origin) :
    ∃ entered, (h.process id p).1.outbound origin = h.outbound origin ++ entered ∧
      ∀ octets ∈ entered, ∀ i, IsAnswer i octets →
        i ≠ Session.noPending ∧ origin = .connected id ∧ p.Requests h.registry i := by
  by_cases own : origin = .connected id
  · subst own
    cases found : h.table.find? id with
    | none => exact ⟨[], by simp [process_of_unknown found], by simp⟩
    | some c =>
        have same := Connection.id_processKind h.board h.settings.heartbeat.interval h.now c p
        have before : h.session? (.connected id) = some c.session := by simp [session?, found]
        have after := session?_keep found same (.connected id)
        rw [if_pos rfl] at after
        obtain ⟨buffers, queued, answers⟩ :=
          Connection.processKind_answers keeps h.settings.heartbeat.interval h.now c p
        refine ⟨buffers, ?_, ?_⟩
        · rw [process_of_found found, outbound_eq after, outbound_eq before, queued]
          rfl
        · intro octets mem i answer
          obtain ⟨waits, asked⟩ := answers octets mem i answer
          exact ⟨waits, rfl, asked⟩
  · have untouched := outbound_congr (h.process_session?_of_ne p own)
    exact ⟨[], by rw [untouched, List.append_nil], by simp⟩

theorem onSession_outbound_suffix {h : Hub ε} {f : Session → Session × Unit}
    (ids : ∀ s, (f s).1.id = s.id) (less : ∀ s, (f s).1.outbound.items <:+ s.outbound.items)
    (source origin : Origin) : (h.onSession source f).1.outbound origin <:+ h.outbound origin := by
  have found := session?_onSession (h := h) ids source origin
  by_cases own : origin = source
  · subst own
    rw [if_pos rfl] at found
    cases known : h.session? origin with
    | none =>
        rw [known, Option.map_none, ← known] at found
        exact outbound_suffix found
    | some s =>
        rw [known] at found
        rw [outbound_eq found, outbound_eq known]
        exact less s
  · exact outbound_suffix (found.trans (if_neg own))

theorem session?_withRegistry (h : Hub ε) (r : Registry (Method ε)) (origin : Origin) :
    (h.withRegistry r).session? origin = h.session? origin := by
  cases origin with
  | connected id => rfl
  | detached index => rfl

/-- Only packets put anything into the queues of the sessions. -/
theorem after_outbound_suffix {h : Hub ε} (numbered : h.table.Numbered) {e : Event ε}
    (other : ∀ id p, e ≠ .packet id p) (origin : Origin) :
    (h.after e).outbound origin <:+ h.outbound origin := by
  cases e with
  | packet id p => exact absurd rfl (other id p)
  | register typeName candidates => exact outbound_suffix (by rw [after, session?_withRegistry])
  | release id => exact outbound_suffix (session?_release numbered id origin)
  | takeForwards | closeForwards | wait => exact outbound_suffix (by cases origin <;> rfl)
  | connect capacity peer =>
      rcases h.session?_connect capacity peer origin with untouched | ⟨-, id, begun⟩
      · exact outbound_suffix untouched
      · rw [after, outbound_eq begun]
        exact List.nil_suffix
  | receive source n =>
      have less (s : Session) : (s.receive n).2.outbound.items <:+ s.outbound.items :=
        List.drop_suffix n s.outbound.items
      exact onSession_outbound_suffix (fun _ => rfl) less source origin
  | hangUp source =>
      exact onSession_outbound_suffix (fun _ => rfl) (fun _ => List.nil_suffix) source origin

/-! ## Runs -/

/-- What an event hands over to the client of a session. -/
def handed (h : Hub ε) (origin : Origin) : Event ε → List Bytes
  | .receive source n => if source = origin then (h.outbound origin).take n else []
  | _ => []

def handedAll (h : Hub ε) (origin : Origin) : List (Event ε) → List Bytes
  | [] => []
  | e :: es => h.handed origin e ++ (h.after e).handedAll origin es

theorem handed_subset (h : Hub ε) (origin : Origin) (e : Event ε) :
    ∀ octets ∈ h.handed origin e, octets ∈ h.outbound origin := by
  intro octets mem
  cases e with
  | receive source n =>
      simp only [handed] at mem
      split at mem
      · exact List.mem_of_mem_take mem
      · cases mem
  | _ => cases mem

/-- A request of a session is among the packets of a run. -/
def Requested (h : Hub ε) (es : List (Event ε)) (origin : Origin) (i : UInt64) : Prop :=
  ∃ before id p later, es = before ++ .packet id p :: later ∧ i ≠ Session.noPending ∧
    origin = .connected id ∧ p.Requests (h.afterAll before).registry i

theorem Requested.cons {h : Hub ε} {e : Event ε} {es : List (Event ε)} {origin : Origin} {i : UInt64}
    (asked : (h.after e).Requested es origin i) : h.Requested (e :: es) origin i := by
  obtain ⟨before, id, p, later, rfl, asked⟩ := asked
  exact ⟨e :: before, id, p, later, rfl, asked⟩

/-- An answer was there from the beginning, or a request of its session came before it. -/
theorem answer_origin {h : Hub ε} (numbered : h.table.Numbered) (keeps : h.registry.KeepsIds)
    {es : List (Event ε)} (allowed : ∀ e ∈ es, e.KeepsIds) (origin : Origin) {octets : Bytes} {i : UInt64}
    (answer : IsAnswer i octets)
    (mem : octets ∈ h.handedAll origin es ++ (h.afterAll es).outbound origin) :
    octets ∈ h.outbound origin ∨ h.Requested es origin i := by
  induction es generalizing h with
  | nil => exact .inl mem
  | cons e es ih =>
      obtain ⟨first, rest⟩ := List.forall_mem_cons.mp allowed
      have stays : octets ∈ (h.after e).outbound origin →
          octets ∈ h.outbound origin ∨ h.Requested (e :: es) origin i := by
        intro queued
        by_cases packet : ∃ id p, e = .packet id p
        · obtain ⟨id, p, rfl⟩ := packet
          obtain ⟨entered, extended, answers⟩ := process_outbound keeps id p origin
          rw [after, extended] at queued
          rcases List.mem_append.mp queued with old | new
          · exact .inl old
          · exact .inr ⟨[], id, p, es, rfl, answers octets new i answer⟩
        · have other : ∀ id p, e ≠ .packet id p := fun id p same => packet ⟨id, p, same⟩
          exact .inl ((after_outbound_suffix numbered other origin).mem queued)
      rw [handedAll, List.append_assoc] at mem
      rcases List.mem_append.mp mem with now | later
      · exact .inl (h.handed_subset origin e octets now)
      · rcases ih (numbered_after numbered e) (keepsIds_after keeps first) rest later with queued | asked
        · exact stays queued
        · exact .inr asked.cons

/-- **Answers go to requests.** Take methods that respond, push, bind, clear the pending id or panic, but
set no id themselves. At any time a packet puts an answer into a queue only if that is the queue of its own
session, the packet is a request for a method of this node, and the id is its own and not zero. Nothing else
puts anything into a queue. So whatever answer a client gets in a run, or still could get, answers a request
that its own session made before, unless it was there from the beginning. -/
theorem answers_to_requests (h : Hub ε) (numbered : h.table.Numbered) (keeps : h.registry.KeepsIds)
    (es : List (Event ε)) (allowed : ∀ e ∈ es, e.KeepsIds) (origin : Origin) :
    (∀ before id p later, es = before ++ .packet id p :: later →
      let now := h.afterAll before
      ∃ entered, (now.after (.packet id p)).outbound origin = now.outbound origin ++ entered ∧
        ∀ octets ∈ entered, ∀ i, IsAnswer i octets →
          i ≠ Session.noPending ∧ origin = .connected id ∧ p.Requests now.registry i) ∧
    (∀ before e later, es = before ++ e :: later → (∀ id p, e ≠ .packet id p) →
      let now := h.afterAll before
      (now.after e).outbound origin <:+ now.outbound origin) ∧
    ∀ octets ∈ h.handedAll origin es ++ (h.afterAll es).outbound origin, ∀ i, IsAnswer i octets →
      octets ∈ h.outbound origin ∨
        ∃ before id p later, es = before ++ .packet id p :: later ∧ i ≠ Session.noPending ∧
          origin = .connected id ∧ p.Requests (h.afterAll before).registry i := by
  refine ⟨?_, ?_, ?_⟩
  · intro before id p later split
    have earlier : ∀ e ∈ before, e.KeepsIds := fun e mem => allowed e (split ▸ List.mem_append_left _ mem)
    exact process_outbound (keepsIds_afterAll keeps earlier) id p origin
  · intro before e later _ other
    exact after_outbound_suffix (numbered_afterAll numbered before) other origin
  · intro octets mem i answer
    exact answer_origin numbered keeps allowed origin answer mem

/-- A client joins a room that answers with the body that it got. -/
theorem answers_to_requests_of_join :
    let join : Entry (Method Unit) := ⟨"Join", fun _ body => .respond body fun _ => .done, 0⟩
    let h : Hub Unit := ⟨{}, ⟨⟨"chat", [⟨"Room", "Room", [join]⟩], .empty⟩, .empty 1⟩, .empty, [], 0⟩
    let asked := [0, 7, 14, 99, 104, 97, 116, 46, 82, 111, 111, 109, 46, 74, 111, 105, 110, 1]
    let es := [.connect 4 ⟨.v4 127 0 0 1, 3250⟩, .packet 1 ⟨.data, asked⟩, .receive (.connected 1) 1]
    h.table.Numbered ∧ h.registry.KeepsIds ∧ (∀ e ∈ es, e.KeepsIds) ∧
      h.handedAll (.connected 1) es = [[4, 0, 0, 3, 4, 7, 1]] ∧
      ∃ before id p later, es = before ++ .packet id p :: later ∧
        p.Requests (h.afterAll before).registry 7 := by
  intro join h asked es
  have handed : h.handedAll (.connected 1) es = [[4, 0, 0, 3, 4, 7, 1]] := by decide +kernel
  have answer : IsAnswer 7 [4, 0, 0, 3, 4, 7, 1] :=
    ⟨[4, 7, 1], .empty, .response 7 [1], rfl, rfl, rfl, rfl⟩
  have keeps : h.registry.KeepsIds := by
    simp [Registry.KeepsIds, registry, h, join, Program.KeepsId]
  have allowed : ∀ e ∈ es, e.KeepsIds := by simp [es, Event.KeepsIds]
  obtain ⟨-, -, origins⟩ :=
    answers_to_requests h SessionTable.numbered_empty keeps es allowed (.connected 1)
  rcases origins [4, 0, 0, 3, 4, 7, 1] (by simp [handed]) 7 answer with
    old | ⟨before, id, p, later, split, -, -, asked⟩
  · cases old
  · exact ⟨rfl, keeps, allowed, handed, before, id, p, later, split, asked⟩

end Hub

end Connector
