import Mathlib.Data.List.Forall2
import Connector.Proofs.Cuts
import Connector.Proofs.MessageRoundTrip
import Connector.Proofs.Processing

/-! What a client receives is what was sent to it.

* `Content`, `Content.CarriedBy`: what is sent, and the octets in which a client reads it;
* `Session.Hinders`, `Session.Sends`: a send puts one buffer into the queue, or there is a cause why not, and
  then it changes nothing;
* `Framing.drain_encoded`: packets in their wire form, one behind the other, are framed one by one;
* `Connection.received_as_sent`: whatever is done with a connection, its client gets what was accepted, in
  order, and reads it as it was sent. -/

namespace Connector

variable {ε : Type}

/-! ## What is sent -/

inductive Content where
  | handshake (text : String)
  | message (m : Message)
  deriving DecidableEq, Repr

namespace Message

/-- How many octets a message takes with its route in full. -/
def plainLength (m : Message) : Nat :=
  1 + m.idField.length + (if m.kind.hasRoute then 1 + m.route.utf8ByteSize else 0) + m.body.length

theorem routeField_none_of_short {m : Message}
    (short : m.kind.hasRoute = true → m.route.utf8ByteSize ≤ maxRouteLength) :
    ∃ field, m.routeField none = .ok field ∧
      field.length = if m.kind.hasRoute then 1 + m.route.utf8ByteSize else 0 := by
  cases carried : m.kind.hasRoute with
  | false => exact ⟨[], by simp [routeField, carried], rfl⟩
  | true =>
      refine ⟨_, by rw [routeField, if_pos carried, textField_of_short (short carried)], ?_⟩
      rw [List.length_cons, Bytes.length_ofString, Nat.add_comm]
      rfl

theorem encode_none_of_short {m : Message}
    (short : m.kind.hasRoute = true → m.route.utf8ByteSize ≤ maxRouteLength) :
    ∃ octets, m.encode none = .ok octets ∧ octets.length = m.plainLength := by
  obtain ⟨field, written, length⟩ := routeField_none_of_short short
  have bare : m.code? none = none := by simp [code?]
  refine ⟨_, encode_of_field (bare ▸ written), ?_⟩
  simp only [List.length_cons, List.length_append, length, plainLength]
  omega

theorem encode_none_of_long {m : Message} (carried : m.kind.hasRoute = true)
    (long : maxRouteLength < m.route.utf8ByteSize) : m.encode none = .error ⟨m.route⟩ := by
  have bare : m.code? none = none := by simp [code?]
  refine encode_of_error ?_
  rw [bare, routeField, if_pos carried, textField_of_long long]

end Message

namespace Content

/-- How long the body of its packet is. -/
def length : Content → Nat
  | handshake text => text.utf8ByteSize
  | message m => m.plainLength

/-- What a client finds in a packet, whatever dictionary it has. -/
def ReadIn : Content → Packet → Prop
  | handshake text, p => p = ⟨.handshake, Bytes.ofString text⟩
  | message m, p => p.kind = .data ∧ ∀ d, Message.decode d p.body = .ok m

/-- The octets are those of a packet in which a client finds the content. -/
def CarriedBy (content : Content) (octets : Bytes) : Prop :=
  ∃ p, p.encode = .ok octets ∧ content.ReadIn p

end Content

namespace Content

theorem exists_packets {contents : List Content} {buffers : List Bytes}
    (carried : List.Forall₂ Content.CarriedBy contents buffers) :
    ∃ packets, List.Forall₂ Content.ReadIn contents packets ∧
      List.Forall₂ (fun p octets => p.encode = .ok octets) packets buffers := by
  induction carried with
  | nil => exact ⟨[], .nil, .nil⟩
  | cons first _ ih =>
      obtain ⟨p, encoded, read⟩ := first
      obtain ⟨packets, reads, encodes⟩ := ih
      exact ⟨p :: packets, .cons read reads, .cons encoded encodes⟩

end Content

namespace Session

/-- What stands in the way of a send, by cause. -/
def Hinders (s : Session) (content : Content) : SendError → Prop
  | .noPendingRequest session => session = s.id ∧ ∃ body, content = .message (.response noPending body)
  | .routeTooLong cause =>
      ∃ m, content = .message m ∧ m.kind.hasRoute = true ∧ cause.route = m.route ∧
        255 < m.route.utf8ByteSize
  | .unencodable cause => cause = .unencodable content.length ∧ 0xffffff < content.length
  | .queueFull session =>
      session = s.id ∧ s.outbound.closed = false ∧ s.outbound.capacity ≤ s.outbound.items.length
  | .queueClosed session => session = s.id ∧ s.outbound.closed = true

/-- Nothing stands in the way of a send and one buffer with the content is queued, or something does and the
session stays as it is. -/
def Sends (s : Session) (content : Content) (later : Session) (outcome : Except SendError Unit) : Prop :=
  (outcome = .ok () ∧ (∀ e, ¬ s.Hinders content e) ∧
      ∃ octets, content.CarriedBy octets ∧ later = s.queue [octets]) ∨
    ∃ e, outcome = .error e ∧ s.Hinders content e ∧ later = s

/-- Whether the content could be sent at all. -/
def Sendable (content : Content) : Prop :=
  (∀ body, content ≠ .message (.response noPending body)) ∧
    ∀ m, content = .message m → m.kind.hasRoute = true → m.route.utf8ByteSize ≤ 255

theorem sends_send {s : Session} {content : Content} {octets : Bytes} (sendable : Sendable content)
    (fits : content.length ≤ 0xffffff) (carried : content.CarriedBy octets) :
    s.Sends content (s.send octets).1 (s.send octets).2 := by
  cases closed : s.outbound.closed with
  | true =>
      refine .inr ⟨.queueClosed s.id, ?_, ⟨rfl, closed⟩, ?_⟩
      · simp [send, Queue.offer, closed]
      · simp [send, Queue.offer, closed]
  | false =>
      by_cases room : s.outbound.items.length < s.outbound.capacity
      · have taken : s.outbound.offer octets = .ok (s.outbound.extend [octets]) :=
          Queue.offer_of_hasRoom ⟨closed, room⟩ octets
        refine .inl ⟨by rw [send, taken], ?_, octets, carried, by rw [send, taken]; rfl⟩
        intro e hinders
        cases e with
        | noPendingRequest session =>
            obtain ⟨-, body, same⟩ := hinders
            exact sendable.1 body same
        | routeTooLong cause =>
            obtain ⟨m, same, has, -, long⟩ := hinders
            have short := sendable.2 m same has
            omega
        | unencodable cause =>
            have long := hinders.2
            omega
        | queueFull session =>
            have full := hinders.2.2
            omega
        | queueClosed session => exact absurd (closed.symm.trans hinders.2) Bool.false_ne_true
      · refine .inr ⟨.queueFull s.id, ?_, ⟨rfl, closed, by omega⟩, ?_⟩
        · simp [send, Queue.offer, closed, room]
        · simp [send, Queue.offer, closed, room]

theorem sends_sendPacket {s : Session} {content : Content} {p : Packet} (sendable : Sendable content)
    (length : p.body.length = content.length) (read : content.ReadIn p) :
    s.Sends content (s.sendPacket p).1 (s.sendPacket p).2 := by
  by_cases fits : content.length ≤ 0xffffff
  · have small : ¬ Packet.maxBodyLength < p.body.length := by
      rw [length, Packet.maxBodyLength]
      omega
    obtain ⟨octets, encoded⟩ : ∃ octets, p.encode = .ok octets := ⟨_, if_neg small⟩
    rw [sendPacket, encoded]
    exact sends_send sendable fits ⟨p, encoded, read⟩
  · have large : Packet.maxBodyLength < p.body.length := by
      rw [length, Packet.maxBodyLength]
      omega
    have refused : p.encode = .error (.unencodable p.body.length) := if_pos large
    rw [sendPacket, refused]
    exact .inr ⟨_, rfl, ⟨by rw [length], by omega⟩, rfl⟩

theorem sends_handshake (s : Session) (text : String) :
    let sent := s.sendPacket ⟨.handshake, Bytes.ofString text⟩
    s.Sends (.handshake text) sent.1 sent.2 :=
  sends_sendPacket ⟨nofun, nofun⟩ (Bytes.length_ofString text) rfl

/-- A message without fields that its kind does not carry, other than a response to nothing. -/
theorem sends_sendMessage {s : Session} {m : Message} (normal : m.normal = m)
    (answerable : ∀ body, m ≠ .response noPending body) :
    s.Sends (.message m) (s.sendMessage m).1 (s.sendMessage m).2 := by
  by_cases short : m.kind.hasRoute = true → m.route.utf8ByteSize ≤ Message.maxRouteLength
  · obtain ⟨body, written, length⟩ := Message.encode_none_of_short short
    rw [sendMessage, written]
    refine sends_sendPacket ⟨?_, ?_⟩ length ⟨rfl, ?_⟩
    · intro other same
      cases same
      exact answerable other rfl
    · intro other same
      cases same
      exact short
    · intro d
      rw [Message.decode_of_encode_none written d, normal]
  · obtain ⟨carried, long⟩ := Classical.not_imp.mp short
    have large : Message.maxRouteLength < m.route.utf8ByteSize := by omega
    rw [sendMessage, Message.encode_none_of_long carried large]
    exact .inr ⟨_, rfl, ⟨m, rfl, carried, rfl, large⟩, rfl⟩

theorem sends_respond (s : Session) (body : Bytes) :
    s.Sends (.message (.response s.pending body)) (s.respond body).1 (s.respond body).2 := by
  by_cases waits : s.pending = noPending
  · rw [respond, if_pos waits]
    exact .inr ⟨_, rfl, ⟨rfl, body, by rw [waits]⟩, rfl⟩
  · rw [respond, if_neg waits]
    refine sends_sendMessage rfl ?_
    intro other same
    exact waits (congrArg Message.id same)

theorem sends_push (s : Session) (route : String) (body : Bytes) :
    s.Sends (.message (.push route body)) (s.push route body).1 (s.push route body).2 := by
  refine sends_sendMessage rfl ?_
  intro other same
  cases congrArg Message.kind same

end Session

/-! ## Framing -/

/-- Packets in their wire form, one behind the other, are found again. -/
theorem Framing.drain_encoded {packets : List Packet} {buffers : List Bytes}
    (encoded : List.Forall₂ (fun p octets => p.encode = .ok octets) packets buffers) :
    drain Packet.maxBodyLength buffers.flatten = ⟨packets, none, [], []⟩ := by
  induction encoded with
  | nil => exact drain_of_partial (.inl (by decide))
  | @cons p octets packets buffers first _ ih =>
      obtain ⟨fits, rfl⟩ := (encode_eq_ok_iff p octets).mp first
      have framed : drain Packet.maxBodyLength ((Frame.ofPacket p fits).octets ++ buffers.flatten) = _ :=
        drain_octets_append fits buffers.flatten
      rw [List.flatten_cons, framed, ih]
      simp [Drained.after, Frame.left]

theorem Framing.feed_flatten {limit : Nat} {octets : Bytes} {packets : List Packet}
    (framed : drain limit octets = ⟨packets, none, [], []⟩) {pieces : List Bytes}
    (cut : pieces.flatten = octets) : feed limit [] pieces = (⟨packets, none, [], []⟩, []) := by
  have idle : drain limit [] = ⟨[], none, [], []⟩ := drain_of_partial (.inl (by decide))
  obtain ⟨whole, read⟩ := drain_append_flatten idle pieces
  rw [List.nil_append, cut, framed] at whole
  have fault : (feed limit [] pieces).1.fault = none := (congrArg Drained.fault whole).symm
  have unread := read fault
  rw [unread, List.flatten_nil, Drained.before_nil] at whole
  exact Prod.ext whole.symm unread

/-! ## One connection -/

namespace Connection

/-- What may be done with a connection and its session. -/
inductive Act (ε : Type) where
  | respond (body : Bytes)
  | push (route : String) (body : Bytes)
  /-- The client asks for a handshake. -/
  | greet (board : Switchboard ε) (interval : Nat)
  | bind (uid : String)
  | setPending (id : UInt64)
  | clearPending
  | close
  /-- The client gets so many of the buffers that are queued for it. -/
  | receive (n : Nat)
  | hangUp

def act (c : Connection) : Act ε → Connection
  | .respond body => { c with session := (c.session.respond body).1 }
  | .push route body => { c with session := (c.session.push route body).1 }
  | .greet board interval => (c.processHandshake board interval).connection
  | .bind uid => { c with session := c.session.bind uid }
  | .setPending id => { c with session := c.session.setPending id }
  | .clearPending => { c with session := c.session.clearPending }
  | .close => c.close.1
  | .receive n => { c with session := (c.session.receive n).2 }
  | .hangUp => { c with session := c.session.hangUp }

/-- What an act tries to send, and how that goes. A closed connection is not greeted. -/
def attempt? (c : Connection) : Act ε → Option (Content × Except SendError Unit)
  | .respond body => some (.message (.response c.session.pending body), (c.session.respond body).2)
  | .push route body => some (.message (.push route body), (c.session.push route body).2)
  | .greet board interval =>
      let text := handshakeText interval board.registry.dictionary
      if c.status = .closed then none
      else some (.handshake text, (c.session.sendPacket ⟨.handshake, Bytes.ofString text⟩).2)
  | _ => none

def accepted (c : Connection) (a : Act ε) : List Content :=
  match c.attempt? a with
  | some (content, .ok ()) => [content]
  | _ => []

/-- The buffers that the client gets. -/
def taken (c : Connection) : Act ε → List Bytes
  | .receive n => (c.session.receive n).1
  | _ => []

def actAll (c : Connection) (acts : List (Act ε)) : Connection := acts.foldl act c

def acceptedAll (c : Connection) : List (Act ε) → List Content
  | [] => []
  | a :: acts => c.accepted a ++ (c.act a).acceptedAll acts

def takenAll (c : Connection) : List (Act ε) → List Bytes
  | [] => []
  | a :: acts => c.taken a ++ (c.act a).takenAll acts

/-! ### Steps -/

theorem sends_of_attempt {c : Connection} {a : Act ε} {content : Content}
    {outcome : Except SendError Unit} (tried : c.attempt? a = some (content, outcome)) :
    c.session.Sends content (c.act a).session outcome ∧ c.taken a = [] := by
  cases a with
  | respond body =>
      cases tried
      exact ⟨c.session.sends_respond body, rfl⟩
  | push route body =>
      cases tried
      exact ⟨c.session.sends_push route body, rfl⟩
  | greet board interval =>
      simp only [attempt?] at tried
      split at tried
      · cases tried
      · next isOpen =>
          cases tried
          rw [act, processHandshake_of_open board interval isOpen]
          exact ⟨c.session.sends_handshake _, rfl⟩
  | bind | setPending | clearPending | close | receive | hangUp => cases tried

/-- An act that sends nothing takes from the front of the queue, if it does anything to it. The last act of
a client is to hang up. -/
theorem queue_of_no_attempt {c : Connection} {a : Act ε} (quiet : c.attempt? a = none) :
    let left := (c.act a).session.outbound
    (left.closed = c.session.outbound.closed ∧ c.taken a ++ left.items = c.session.outbound.items) ∨
      (left.closed = true ∧ left.items = [] ∧ c.taken a = []) := by
  cases a with
  | respond | push => cases quiet
  | greet board interval =>
      simp only [attempt?] at quiet
      split at quiet
      · next closed =>
          refine .inl ?_
          rw [act, processHandshake_of_closed board interval closed]
          exact ⟨rfl, rfl⟩
      · cases quiet
  | bind | setPending | clearPending => exact .inl ⟨rfl, rfl⟩
  | close =>
      have same : (c.act (.close : Act ε)).session = c.session := c.session_moveTo .closed
      rw [same]
      exact .inl ⟨rfl, rfl⟩
  | receive n => exact .inl ⟨rfl, List.take_append_drop n c.session.outbound.items⟩
  | hangUp => exact .inr ⟨rfl, rfl, rfl⟩

/-- Once the client has hung up nothing is queued or taken any more. -/
theorem taken_of_gone {c : Connection} (gone : c.session.outbound.closed = true)
    (empty : c.session.outbound.items = []) (acts : List (Act ε)) :
    c.takenAll acts = [] ∧ (c.actAll acts).session.outbound.closed = true := by
  induction acts generalizing c with
  | nil => exact ⟨rfl, gone⟩
  | cons a acts ih =>
      have next : c.taken a = [] ∧ (c.act a).session.outbound.closed = true ∧
          (c.act a).session.outbound.items = [] := by
        cases tried : c.attempt? a with
        | none =>
            rcases queue_of_no_attempt tried with ⟨closed, split⟩ | ⟨closed, none, taken⟩
            · rw [empty, List.append_eq_nil_iff] at split
              exact ⟨split.1, closed.trans gone, split.2⟩
            · exact ⟨taken, closed, none⟩
        | some attempt =>
            obtain ⟨content, outcome⟩ := attempt
            obtain ⟨sends, taken⟩ := sends_of_attempt tried
            rcases sends with ⟨-, free, -⟩ | ⟨e, -, -, same⟩
            · exact absurd ⟨rfl, gone⟩ (free (.queueClosed c.session.id))
            · rw [same]
              exact ⟨taken, gone, empty⟩
      obtain ⟨taken, closed, none⟩ := next
      obtain ⟨later, ended⟩ := ih closed none
      refine ⟨?_, ended⟩
      rw [takenAll, taken, later]
      rfl

/-! ### Runs -/

/-- Buffers with what was accepted, of which the client gets the first, and as long as it listens the others
are queued for it. -/
def Delivers (c : Connection) (queued : List Content) (acts : List (Act ε)) : Prop :=
  ∃ buffers, List.Forall₂ Content.CarriedBy
      (queued ++ c.acceptedAll acts) buffers ∧
    c.takenAll acts <+: buffers ∧
    ((c.actAll acts).session.outbound.closed = false →
      c.takenAll acts ++ (c.actAll acts).session.outbound.items = buffers)

theorem delivers {c : Connection} {queued : List Content}
    (carried : List.Forall₂ Content.CarriedBy queued
      c.session.outbound.items) (acts : List (Act ε)) : c.Delivers queued acts := by
  induction acts generalizing c queued with
  | nil =>
      refine ⟨c.session.outbound.items, ?_, List.nil_prefix, fun _ => rfl⟩
      rw [acceptedAll, List.append_nil]
      exact carried
  | cons a acts ih =>
      cases tried : c.attempt? a with
      | some attempt =>
          obtain ⟨content, outcome⟩ := attempt
          obtain ⟨sends, taken⟩ := sends_of_attempt tried
          rcases sends with ⟨rfl, -, octets, carries, same⟩ | ⟨e, rfl, -, same⟩
          · have more : List.Forall₂ Content.CarriedBy
                (queued ++ [content]) (c.act a).session.outbound.items := by
              rw [same]
              exact List.rel_append carried (.cons carries .nil)
            obtain ⟨buffers, all, front, whole⟩ := ih more
            have accepted : c.accepted a = [content] := by rw [Connection.accepted, tried]
            refine ⟨buffers, ?_, ?_, ?_⟩
            · rwa [acceptedAll, accepted, ← List.append_assoc]
            · rwa [takenAll, taken]
            · rwa [takenAll, taken]
          · rw [← same] at carried
            obtain ⟨buffers, all, front, whole⟩ := ih carried
            have accepted : c.accepted a = [] := by rw [Connection.accepted, tried]
            refine ⟨buffers, ?_, ?_, ?_⟩
            · rwa [acceptedAll, accepted]
            · rwa [takenAll, taken]
            · rwa [takenAll, taken]
      | none =>
          have accepted : c.accepted a = [] := by rw [Connection.accepted, tried]
          rw [Delivers, acceptedAll, accepted, List.nil_append, takenAll]
          rcases queue_of_no_attempt tried with ⟨-, split⟩ | ⟨closed, none, taken⟩
          · rw [← split] at carried
            obtain ⟨buffers, all, front, whole⟩ := ih (List.forall₂_drop_append _ _ _ carried)
            refine ⟨c.taken a ++ buffers, ?_, ?_, ?_⟩
            · have taken := List.forall₂_take_append _ _ _ carried
              rw [← List.take_append_drop (c.taken a).length queued, List.append_assoc]
              exact List.rel_append taken all
            · exact (List.prefix_append_right_inj _).mpr front
            · intro isOpen
              rw [List.append_assoc, actAll, List.foldl_cons]
              exact congrArg (c.taken a ++ ·) (whole isOpen)
          · obtain ⟨nothing, gone⟩ := taken_of_gone closed none acts
            have empty : List.Forall₂ Content.CarriedBy [] (c.act a).session.outbound.items := by
              rw [none]
              exact .nil
            obtain ⟨buffers, all, -⟩ := ih empty
            refine ⟨c.session.outbound.items ++ buffers, List.rel_append carried all, ?_, ?_⟩
            · rw [taken, nothing]
              exact List.nil_prefix
            · intro isOpen
              exact absurd (isOpen.symm.trans gone) Bool.false_ne_true

/-- **What a client receives is what was sent to it.** Whatever is done with a connection, in whatever
order and with a queue of whatever capacity: a send that nothing hinders queues one buffer and changes
nothing else, any other send changes nothing, and nothing but sends puts anything into the queue. The
buffers that the client gets, one behind the other and cut in any way, are framed as one packet each with
nothing left. In these the client reads, in their order, the handshakes and messages that were accepted,
whatever dictionary it has; and as long as it listens, those that it has not got are queued for it. -/
theorem received_as_sent (id capacity : Nat) (peer : Address) (now : Nat) (acts : List (Act ε)) :
    let start := Connection.new id capacity peer now
    let received := start.takenAll acts
    let sent := start.acceptedAll acts
    (∀ before a later, acts = before ++ a :: later →
      let c := start.actAll before
      match c.attempt? a with
      | some (content, outcome) => c.session.Sends content (c.act a).session outcome
      | none => (c.act a).session.outbound.items <:+ c.session.outbound.items) ∧
    (∀ pieces : List Bytes, pieces.flatten = received.flatten →
      ∃ packets, Framing.feed 0xffffff [] pieces = (⟨packets, none, [], []⟩, []) ∧
        List.Forall₂ Content.ReadIn (sent.take received.length) packets ∧
        packets.length = received.length) ∧
    ((start.actAll acts).session.outbound.closed = false →
      sent.length = received.length + (start.actAll acts).session.outbound.items.length) := by
  intro start received sent
  have empty : List.Forall₂ Content.CarriedBy [] start.session.outbound.items := .nil
  obtain ⟨buffers, carried, front, whole⟩ := delivers empty acts
  rw [List.nil_append] at carried
  refine ⟨?_, ?_, ?_⟩
  · intro before a later _ c
    cases tried : c.attempt? a with
    | some attempt => exact (sends_of_attempt tried).1
    | none =>
        rcases queue_of_no_attempt tried with ⟨-, split⟩ | ⟨-, none, -⟩
        · exact ⟨c.taken a, split⟩
        · show (c.act a).session.outbound.items <:+ _
          rw [none]
          exact List.nil_suffix
  · intro pieces cut
    have got : List.Forall₂ Content.CarriedBy (sent.take received.length)
        received := by
      have := List.forall₂_take received.length carried
      rwa [← List.prefix_iff_eq_take.mp front] at this
    obtain ⟨packets, read, encoded⟩ := Content.exists_packets got
    have framed := Framing.feed_flatten (Framing.drain_encoded encoded) cut
    exact ⟨packets, framed, read, encoded.length_eq⟩
  · intro isOpen
    rw [carried.length_eq, ← whole isOpen, List.length_append]

/-- A response before any request, one to a request, a push, and a push for which there is no room. What the
client gets comes octet by octet. -/
theorem received_as_sent_of_request :
    let start := Connection.new 1 2 ⟨.v4 127 0 0 1, 3250⟩ 0
    let acts : List (Act Unit) := [.respond [9], .setPending 7, .respond [1], .push "onPush" [2],
      .push "onPush" [3], .receive 2]
    let pieces := (start.takenAll acts).flatten.map fun octet => [octet]
    pieces.flatten = (start.takenAll acts).flatten ∧
      ∃ packets, Framing.feed 0xffffff [] pieces = (⟨packets, none, [], []⟩, []) ∧
        List.Forall₂ Content.ReadIn [.message (.response 7 [1]), .message (.push "onPush" [2])] packets := by
  intro start acts pieces
  have cut : pieces.flatten = (start.takenAll acts).flatten := by decide +kernel
  have sent : (start.acceptedAll acts).take (start.takenAll acts).length =
      [.message (.response 7 [1]), .message (.push "onPush" [2])] := by
    decide +kernel
  obtain ⟨-, framed, -⟩ := received_as_sent 1 2 ⟨.v4 127 0 0 1, 3250⟩ 0 acts
  obtain ⟨packets, fed, read, -⟩ := framed pieces cut
  exact ⟨cut, packets, fed, sent ▸ read⟩

end Connection

end Connector
