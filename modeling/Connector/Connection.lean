import Connector.Address
import Connector.Log
import Connector.Session

/-! Connections: a session with the state of its protocol.

- `Connection.handshake`, `Connection.acknowledge`, `Connection.close`: the moves of the status. A closed
  connection stays closed and refuses them. -/

namespace Connector

inductive Status where
  | handshaking | working | closed
  deriving DecidableEq, Repr

namespace Status

def code : Status → Nat
  | handshaking => 1
  | working => 2
  | closed => 3

/-- A code that means nothing means closed. -/
def ofCode : Nat → Status
  | 1 => handshaking
  | 2 => working
  | _ => closed

def name : Status → String
  | handshaking => "Handshaking"
  | working => "Working"
  | closed => "Closed"

end Status

/-- `lastHeard` is the time of the last sign of life in milliseconds. A released connection is no longer in
the table of sessions. -/
structure Connection where
  peer : Address
  status : Status
  lastHeard : Nat
  released : Bool
  session : Session
  deriving Repr

namespace Connection

def new (id capacity : Nat) (peer : Address) (now : Nat) : Connection :=
  ⟨peer, .handshaking, now, false, .new id capacity⟩

def id (c : Connection) : Nat := c.session.id

/-- Moves on unless closed, and tells whether it did. -/
def moveTo (c : Connection) (next : Status) : Connection × Bool :=
  if c.status = .closed then (c, false) else ({ c with status := next }, true)

def handshake (c : Connection) : Connection × Bool := c.moveTo .handshaking

def acknowledge (c : Connection) : Connection × Bool := c.moveTo .working

def close (c : Connection) : Connection × Bool := c.moveTo .closed

def hear (c : Connection) (now : Nat) : Connection := { c with lastHeard := now }

/-- How long the client has been silent. -/
def idleTime (c : Connection) (now : Nat) : Nat := now - c.lastHeard

def dumpLog (c : Connection) : Log :=
  .debug (s!"session {c.id} peer={c.peer} status={c.status.name} uid=" ++
    Session.describeUid c.session.uid)

end Connection

end Connector
