import Connector.Message.Codec
import Connector.Packet
import Connector.Queue
import Connector.Text.Quoted

/-! Sessions: the identity of a client as handlers see it, with the id of the request being served and the
queue of octets on their way out.

- `Session.respond`: a response to the pending request.
- `Session.push`: a message that nobody asked for.
- `Session.send`: octets into the outbound queue. A refused one changes nothing. -/

namespace Connector

/-- Zero as the pending id means that no request waits for a response. -/
structure Session where
  id : Nat
  uid : Option String
  pending : UInt64
  outbound : Queue Bytes
  deriving Repr

/-- Why nothing was sent. -/
inductive SendError where
  | noPendingRequest (session : Nat)
  | routeTooLong (cause : RouteTooLong)
  | unencodable (cause : PacketError)
  | queueFull (session : Nat)
  | queueClosed (session : Nat)
  deriving DecidableEq, Repr

def SendError.toError : SendError → Error
  | noPendingRequest session => .illegalState s!"session {session} has no pending request to respond to"
  | routeTooLong cause => cause.toError
  | unencodable cause => cause.toError
  | queueFull session => .channelSend s!"outbound queue of session {session} is full"
  | queueClosed session => .channelSend s!"session {session} is closed"

namespace Session

def noPending : UInt64 := 0

def new (id capacity : Nat) : Session := ⟨id, none, noPending, .empty capacity⟩

def bind (s : Session) (uid : String) : Session := { s with uid := some uid }

def setPending (s : Session) (id : UInt64) : Session := { s with pending := id }

def clearPending (s : Session) : Session := s.setPending noPending

def send (s : Session) (octets : Bytes) : Session × Except SendError Unit :=
  match s.outbound.offer octets with
  | .ok queue => ({ s with outbound := queue }, .ok ())
  | .error .full => (s, .error (.queueFull s.id))
  | .error .closed => (s, .error (.queueClosed s.id))

def sendPacket (s : Session) (p : Packet) : Session × Except SendError Unit :=
  match p.encode with
  | .ok octets => s.send octets
  | .error e => (s, .error (.unencodable e))

/-- Clients get routes in full. -/
def sendMessage (s : Session) (m : Message) : Session × Except SendError Unit :=
  match m.encode none with
  | .ok body => s.sendPacket ⟨.data, body⟩
  | .error e => (s, .error (.routeTooLong e))

def respond (s : Session) (body : Bytes) : Session × Except SendError Unit :=
  if s.pending = noPending then (s, .error (.noPendingRequest s.id))
  else s.sendMessage (.response s.pending body)

def push (s : Session) (route : String) (body : Bytes) : Session × Except SendError Unit :=
  s.sendMessage (.push route body)

/-- Takes up to `n` buffers from the outbound queue. -/
def receive (s : Session) (n : Nat) : List Bytes × Session :=
  let (taken, rest) := s.outbound.take n
  (taken, { s with outbound := rest })

/-- The receiving end goes away. -/
def hangUp (s : Session) : Session := { s with outbound := s.outbound.abandon }

def describeUid : Option String → String
  | none => "None"
  | some uid => "Some(" ++ Text.quoted uid ++ ")"

def describe (s : Session) : String :=
  "Session \x7b " ++ s!"id: {s.id}, uid: " ++ describeUid s.uid ++ s!", req_id: {s.pending.toNat} " ++
    "\x7d"

end Session

end Connector
