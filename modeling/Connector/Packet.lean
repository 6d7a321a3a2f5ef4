import Connector.Bytes
import Connector.Error

/-! Packets: the framed units of the client protocol.

- `Packet.encode`: the wire form, one octet for the kind, three for the body length, then the body. It
  fails for bodies that three octets cannot count.
- `PacketKind.ofTag?`: the kind that an octet stands for. -/

namespace Connector

inductive PacketKind where
  | handshake | handshakeAck | heartbeat | data
  deriving DecidableEq, Repr

namespace PacketKind

def tag : PacketKind → UInt8
  | handshake => 1
  | handshakeAck => 2
  | heartbeat => 3
  | data => 4

def ofTag? (b : UInt8) : Option PacketKind :=
  if b = 1 then some handshake
  else if b = 2 then some handshakeAck
  else if b = 3 then some heartbeat
  else if b = 4 then some data
  else none

def name : PacketKind → String
  | handshake => "Handshake"
  | handshakeAck => "HandshakeAck"
  | heartbeat => "Heartbeat"
  | data => "Data"

@[simp] theorem ofTag?_tag (k : PacketKind) : ofTag? k.tag = some k := by cases k <;> rfl

end PacketKind

/-- What can be wrong with a packet: its type is not known, it is not all there yet, it is longer than
the reader allows, or longer than the wire form can say. -/
inductive PacketError where
  | unknownKind (tag : UInt8)
  | incomplete
  | exceedsLimit (length limit : Nat)
  | unencodable (length : Nat)
  deriving DecidableEq, Repr

def PacketError.toError : PacketError → Error
  | unknownKind tag => .malformedProtocol s!"unknown packet type {tag.toNat}"
  | incomplete => .incomplete
  | exceedsLimit length limit => .packetTooLarge s!"packet of length {length} exceeds limit {limit}"
  | unencodable length => .packetTooLarge s!"packet body of length {length} cannot be encoded"

structure Packet where
  kind : PacketKind
  body : Bytes
  deriving DecidableEq, Repr

namespace Packet

def headLength : Nat := 4

/-- The longest body that three octets can count. -/
def maxBodyLength : Nat := 0xffffff

/-- A type octet and a body length, high octet first. -/
def header (tag : UInt8) (length : Nat) : Bytes :=
  [tag, UInt8.ofNat (length / 65536), UInt8.ofNat (length / 256), UInt8.ofNat length]

def encode (p : Packet) : Except PacketError Bytes :=
  if maxBodyLength < p.body.length then .error (.unencodable p.body.length)
  else .ok (header p.kind.tag p.body.length ++ p.body)

def describe (p : Packet) : String :=
  "Packet \x7b packet_type: " ++ p.kind.name ++ s!", body_len: {p.body.length} " ++ "\x7d"

end Packet

end Connector
