import Connector.Node

/-! Clients of a node, and what they get to see of it.

- `Client.connect`: a client reaches a node.
- `Client.send`, `Client.finish`: octets for the node, and the end of them.
- `Client.receive`, `Client.receiveAll`: packets that came from the node. -/

namespace Connector

/-- `line` is the client's place in the order of connections, `seen` counts the octets that it took. -/
structure Client where
  line : Nat
  seen : Nat
  deriving DecidableEq, Repr

namespace Client

variable {ε : Type}

def connect (n : Node ε) (peer : Address) : Node ε × Client × Trace ε :=
  let client : Client := ⟨n.lines.length + n.backlog.length, 0⟩
  let (n, trace) := (n.connect peer).settle
  (n, client, trace)

def line? (c : Client) (n : Node ε) : Option Line := n.lines[c.line]?

/-- The session that the node made for the client, once the client was accepted. -/
def session? (c : Client) (n : Node ε) : Option Nat :=
  match c.line? n with
  | none => none
  | some l => if l.stage = .spawned then none else some l.session

/-- The client's connection while the node has it in its table. -/
def connection? (c : Client) (n : Node ε) : Option Connection :=
  (c.session? n).bind n.hub.table.get?

def arrive (c : Client) (n : Node ε) (a : Arrival) : Node ε × Trace ε := (n.arrive c.line a).settle

def sendPieces (c : Client) (n : Node ε) : List Bytes → Node ε × Trace ε
  | [] => (n, .empty)
  | piece :: pieces =>
      let (n, first) := c.arrive n (.octets piece)
      let (n, later) := c.sendPieces n pieces
      (n, first ++ later)

/-- Sends octets in pieces of a size. A piece without octets would be the end of the stream. -/
def send (c : Client) (n : Node ε) (size : Nat) (data : Bytes) : Node ε × Trace ε :=
  c.sendPieces n ((Framing.chunks size data).filter (!·.isEmpty))

/-- The client has no more to send. -/
def finish (c : Client) (n : Node ε) : Node ε × Trace ε := c.arrive n (.octets [])

/-- What the node handed to the client and the client did not take yet. -/
def waiting (c : Client) (n : Node ε) : Bytes :=
  match c.line? n with
  | none => []
  | some l => l.writer.handed.drop c.seen

/-- Whether the node closed the client's stream. -/
def isEnded (c : Client) (n : Node ε) : Bool :=
  match c.line? n with
  | none => n.phase ≠ .serving
  | some l => l.writer.isExited

/-- Takes up to `count` whole packets. -/
def receiveFrom (c : Client) (octets : Bytes) : Nat → List Packet × Client
  | 0 => ([], c)
  | count + 1 =>
      match Framing.parse Packet.maxBodyLength octets with
      | ⟨.ok (some p), rest, _⟩ =>
          let c := { c with seen := c.seen + (octets.length - rest.length) }
          let (packets, c) := c.receiveFrom rest count
          (p :: packets, c)
      | _ => ([], c)

def receive (c : Client) (n : Node ε) (count : Nat) : List Packet × Client :=
  c.receiveFrom (c.waiting n) count

def receiveAll (c : Client) (n : Node ε) : List Packet × Client := c.receive n (c.waiting n).length

end Client

namespace Node

variable {ε : Type}

/-- Sends the shutdown signal and waits for every line to end. -/
def shutDown (n : Node ε) : Node ε × Trace ε :=
  match n.step? .shutDown with
  | none => (n, .empty)
  | some (n, first) =>
      let (n, later) := n.settle
      (n, first ++ later)

end Node

end Connector
