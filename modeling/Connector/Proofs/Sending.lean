import Connector.Program
import Connector.Proofs.Queues

/-! What sends do to a session, and what a handler's program sends.

* `Session.send_cases` and its kin: a send is refused and changes nothing, or its buffer is queued;
* `Session.send_fills` and its kin: the outcome of a send tells what the queue took;
* `Program.KeepsId`: the program gives its session no id to answer to;
* `Program.run_served`: such a handler queues what nobody asked for and answers to the request that was
  pending when it began, and does nothing else to the queue. -/

namespace Connector

/-- The octets that carry a message to a client. -/
def Message.SentAs (m : Message) (octets : Bytes) : Prop :=
  ∃ body, m.encode none = .ok body ∧ Packet.encode ⟨.data, body⟩ = .ok octets

/-- The buffer in which a message goes to a client. -/
def Message.buffer? (m : Message) : Option Bytes :=
  (m.encode none).toOption.bind fun body => (Packet.encode ⟨.data, body⟩).toOption

namespace Session

/-- The session with more buffers on their way out. -/
def queue (s : Session) (buffers : List Bytes) : Session :=
  { s with outbound := s.outbound.extend buffers }

theorem send_cases (s : Session) (octets : Bytes) :
    (∃ e, s.send octets = (s, .error e)) ∨ s.send octets = (s.queue [octets], .ok ()) := by
  by_cases room : s.outbound.HasRoom
  · exact .inr (by rw [send, Queue.offer_of_hasRoom room]; rfl)
  · obtain ⟨refusal, refused⟩ := Queue.offer_of_not_hasRoom room octets
    cases refusal with
    | full => exact .inl ⟨_, by rw [send, refused]⟩
    | closed => exact .inl ⟨_, by rw [send, refused]⟩

theorem id_send (s : Session) (octets : Bytes) : (s.send octets).1.id = s.id := by
  rcases s.send_cases octets with ⟨e, refused⟩ | queued
  · rw [refused]
  · rw [queued]
    rfl

theorem sendPacket_cases (s : Session) (p : Packet) :
    (∃ e, s.sendPacket p = (s, .error e)) ∨
      ∃ octets, p.encode = .ok octets ∧ s.sendPacket p = (s.queue [octets], .ok ()) := by
  unfold sendPacket
  split
  · next octets encoded =>
      rcases s.send_cases octets with refused | queued
      · exact .inl refused
      · exact .inr ⟨octets, encoded, queued⟩
  · exact .inl ⟨_, rfl⟩

theorem id_sendPacket (s : Session) (p : Packet) : (s.sendPacket p).1.id = s.id := by
  rcases s.sendPacket_cases p with ⟨e, refused⟩ | ⟨octets, -, queued⟩
  · rw [refused]
  · rw [queued]
    rfl

theorem sendMessage_cases (s : Session) (m : Message) :
    (∃ e, s.sendMessage m = (s, .error e)) ∨
      ∃ octets, m.SentAs octets ∧ s.sendMessage m = (s.queue [octets], .ok ()) := by
  unfold sendMessage
  split
  · next body written =>
      rcases s.sendPacket_cases ⟨.data, body⟩ with refused | ⟨octets, encoded, queued⟩
      · exact .inl refused
      · exact .inr ⟨octets, ⟨body, written, encoded⟩, queued⟩
  · exact .inl ⟨_, rfl⟩

theorem respond_cases (s : Session) (body : Bytes) :
    (∃ e, s.respond body = (s, .error e)) ∨
      s.pending ≠ noPending ∧ ∃ octets, (Message.response s.pending body).SentAs octets ∧
        s.respond body = (s.queue [octets], .ok ()) := by
  unfold respond
  split
  · exact .inl ⟨_, rfl⟩
  · next waits =>
      rcases s.sendMessage_cases (.response s.pending body) with refused | queued
      · exact .inl refused
      · exact .inr ⟨waits, queued⟩

/-! ## Buffers of sends that succeed -/

/-- The buffer of a send, if the send succeeded. -/
def bufferSent (outcome : Except SendError Unit) (buffer? : Option Bytes) : List Bytes :=
  if outcome.isOk then buffer?.toList else []

theorem send_fills (s : Session) (octets : Bytes) :
    s.outbound.Fills (bufferSent (s.send octets).2 (some octets)) (s.send octets).1.outbound := by
  by_cases room : s.outbound.HasRoom
  · rw [send, Queue.offer_of_hasRoom room]
    exact ⟨rfl, .inr ⟨room.1, room.2⟩⟩
  · obtain ⟨refusal, refused⟩ := Queue.offer_of_not_hasRoom room octets
    rw [send, refused]
    cases refusal with
    | full => exact .refl _
    | closed => exact .refl _

theorem sendPacket_fills (s : Session) (p : Packet) :
    s.outbound.Fills (bufferSent (s.sendPacket p).2 p.encode.toOption) (s.sendPacket p).1.outbound := by
  unfold sendPacket
  split
  · next octets encoded =>
      rw [encoded]
      exact s.send_fills octets
  · exact .refl _

theorem sendMessage_fills (s : Session) (m : Message) :
    s.outbound.Fills (bufferSent (s.sendMessage m).2 m.buffer?) (s.sendMessage m).1.outbound := by
  unfold sendMessage
  split
  · next body written =>
      rw [Message.buffer?, written]
      exact s.sendPacket_fills ⟨.data, body⟩
  · exact .refl _

theorem respond_fills (s : Session) (body : Bytes) :
    s.outbound.Fills (bufferSent (s.respond body).2 (Message.response s.pending body).buffer?)
      (s.respond body).1.outbound := by
  unfold respond
  split
  · exact .refl _
  · exact s.sendMessage_fills _

end Session

/-! ## Programs -/

/-- What a handler may send while it serves a message with an id: anything that nobody asked for, and
answers if the id is that of a request. -/
def HandlerSends (pending : UInt64) (octets : Bytes) : Prop :=
  (∃ route body, (Message.push route body).SentAs octets) ∨
    pending ≠ Session.noPending ∧ ∃ body, (Message.response pending body).SentAs octets

/-- A session that a handler has served: its id stays, and more may be on its way out. -/
def Session.Served (s later : Session) : Prop :=
  ∃ buffers, later.id = s.id ∧ later.outbound = (s.queue buffers).outbound ∧
    ∀ octets ∈ buffers, HandlerSends s.pending octets

namespace Session

theorem Served.id {s later : Session} (h : s.Served later) : later.id = s.id := by
  obtain ⟨-, same, -⟩ := h
  exact same

theorem Served.of_same {s later : Session} (id : later.id = s.id)
    (outbound : later.outbound = s.outbound) : s.Served later := by
  refine ⟨[], id, ?_, ?_⟩
  · rw [queue, Queue.extend_nil, outbound]
  · intro octets mem
    cases mem

theorem Served.of_queue {s later : Session} {octets : Bytes} (queued : later = s.queue [octets])
    (allowed : HandlerSends s.pending octets) : s.Served later := by
  subst queued
  refine ⟨[octets], rfl, rfl, ?_⟩
  intro other mem
  obtain rfl := List.mem_singleton.mp mem
  exact allowed

/-- The pending id may only get lost on the way. -/
theorem Served.trans {s next later : Session} (h : s.Served next)
    (pending : next.pending = s.pending ∨ next.pending = noPending) (h' : next.Served later) :
    s.Served later := by
  obtain ⟨first, id, outbound, allowed⟩ := h
  obtain ⟨more, id', outbound', allowed'⟩ := h'
  refine ⟨first ++ more, id'.trans id, ?_, ?_⟩
  · simp only [outbound', queue, outbound, Queue.extend_extend]
  · intro octets mem
    rcases List.mem_append.mp mem with mem | mem
    · exact allowed octets mem
    · rcases allowed' octets mem with pushed | ⟨waits, answered⟩
      · exact .inl pushed
      · rcases pending with same | lost
        · rw [same] at waits answered
          exact .inr ⟨waits, answered⟩
        · exact absurd lost waits

theorem served_respond (s : Session) (body : Bytes) :
    s.Served (s.respond body).1 ∧ (s.respond body).1.pending = s.pending := by
  rcases s.respond_cases body with ⟨e, refused⟩ | ⟨waits, octets, carried, queued⟩
  · rw [refused]
    exact ⟨.of_same rfl rfl, rfl⟩
  · rw [queued]
    exact ⟨.of_queue rfl (.inr ⟨waits, body, carried⟩), rfl⟩

theorem served_push (s : Session) (route : String) (body : Bytes) :
    s.Served (s.push route body).1 ∧ (s.push route body).1.pending = s.pending := by
  rcases s.sendMessage_cases (.push route body) with ⟨e, refused⟩ | ⟨octets, carried, queued⟩
  · rw [push, refused]
    exact ⟨.of_same rfl rfl, rfl⟩
  · rw [push, queued]
    exact ⟨.of_queue rfl (.inl ⟨route, body, carried⟩), rfl⟩

end Session

namespace Program

variable {ε : Type}

theorem id_run (program : Program ε) (s : Session) : (program.run s).session.id = s.id := by
  induction program generalizing s with
  | done => rfl
  | panic payload => rfl
  | report event next ih => exact ih s
  | bind uid next ih => exact ih (s.bind uid)
  | setPending id next ih => exact ih (s.setPending id)
  | clearPending next ih => exact ih s.clearPending
  | respond body next ih => exact (ih _ _).trans (s.served_respond body).1.id
  | push route body next ih => exact (ih _ _).trans (s.served_push route body).1.id

/-- The program gives its session no id to answer to. It may still take away the one that is pending. -/
def KeepsId : Program ε → Prop
  | done => True
  | report _ next => next.KeepsId
  | respond _ next => ∀ outcome, (next outcome).KeepsId
  | push _ _ next => ∀ outcome, (next outcome).KeepsId
  | bind _ next => next.KeepsId
  | setPending _ _ => False
  | clearPending next => next.KeepsId
  | panic _ => True

/-- **A handler answers nothing but the request that it serves**, unless it sets another id itself. -/
theorem run_served {program : Program ε} (keeps : program.KeepsId) (s : Session) :
    s.Served (program.run s).session := by
  induction program generalizing s with
  | done => exact .of_same rfl rfl
  | panic payload => exact .of_same rfl rfl
  | report event next ih => exact ih keeps s
  | setPending id next ih => exact keeps.elim
  | bind uid next ih =>
      have bound : s.Served (s.bind uid) := .of_same rfl rfl
      exact bound.trans (.inl rfl) (ih keeps (s.bind uid))
  | clearPending next ih =>
      have cleared : s.Served s.clearPending := .of_same rfl rfl
      exact cleared.trans (.inr rfl) (ih keeps s.clearPending)
  | respond body next ih =>
      obtain ⟨responded, pending⟩ := s.served_respond body
      exact responded.trans (.inl pending) (ih _ (keeps _) _)
  | push route body next ih =>
      obtain ⟨pushed, pending⟩ := s.served_push route body
      exact pushed.trans (.inl pending) (ih _ (keeps _) _)

end Program

end Connector
