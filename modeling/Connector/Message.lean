import Connector.Bytes

/-! Messages: what data packets carry.

- `MessageKind.hasId`, `MessageKind.hasRoute`: the fields that a kind of message carries.
- `Message.normal`: the message with the fields that its kind does not carry reset. -/

namespace Connector

inductive MessageKind where
  | request | notify | response | push
  deriving DecidableEq, Repr

namespace MessageKind

def code : MessageKind → Nat
  | request => 0
  | notify => 1
  | response => 2
  | push => 3

def ofCode? : Nat → Option MessageKind
  | 0 => some request
  | 1 => some notify
  | 2 => some response
  | 3 => some push
  | _ => none

def name : MessageKind → String
  | request => "Request"
  | notify => "Notify"
  | response => "Response"
  | push => "Push"

def hasId : MessageKind → Bool
  | request | response => true
  | notify | push => false

def hasRoute : MessageKind → Bool
  | request | notify | push => true
  | response => false

end MessageKind

structure Message where
  kind : MessageKind
  id : UInt64
  route : String
  body : Bytes
  deriving DecidableEq, Repr

namespace Message

def request (id : UInt64) (route : String) (body : Bytes) : Message := ⟨.request, id, route, body⟩
def notify (route : String) (body : Bytes) : Message := ⟨.notify, 0, route, body⟩
def response (id : UInt64) (body : Bytes) : Message := ⟨.response, id, "", body⟩
def push (route : String) (body : Bytes) : Message := ⟨.push, 0, route, body⟩

def normal (m : Message) : Message :=
  { m with id := if m.kind.hasId then m.id else 0, route := if m.kind.hasRoute then m.route else "" }

end Message

end Connector
