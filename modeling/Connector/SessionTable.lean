import Connector.Connection

/-! The table of sessions. It counts its connections from one and knows which of them are still live.

- `SessionTable.create`: a new connection, with the next id.
- `SessionTable.release`: takes a connection out, once. It is closed then.
- `SessionTable.live`, `SessionTable.get?`, `SessionTable.count`: what the table holds. -/

namespace Connector

/-- All connections ever made, in order. Released ones stay for those who still hold them. -/
structure SessionTable where
  connections : List Connection
  deriving Repr

namespace SessionTable

def empty : SessionTable := ⟨[]⟩

def nextId (t : SessionTable) : Nat := t.connections.length + 1

def live (t : SessionTable) : List Connection := t.connections.filter (!·.released)

def count (t : SessionTable) : Nat := t.live.length

/-- A connection by its id, released or not. -/
def find? (t : SessionTable) (id : Nat) : Option Connection := t.connections.find? (·.id == id)

/-- A connection that the table still holds. -/
def get? (t : SessionTable) (id : Nat) : Option Connection := t.live.find? (·.id == id)

/-- Puts a connection in the place of the one with its id. -/
def put (t : SessionTable) (c : Connection) : SessionTable :=
  ⟨t.connections.map fun other => if other.id = c.id then c else other⟩

def create (t : SessionTable) (capacity : Nat) (peer : Address) (now : Nat) :
    SessionTable × Connection :=
  let c := Connection.new t.nextId capacity peer now
  (⟨t.connections ++ [c]⟩, c)

def release (t : SessionTable) (id : Nat) : SessionTable × Option Connection :=
  match t.get? id with
  | none => (t, none)
  | some c =>
      let gone := { c.close.1 with released := true }
      (t.put gone, some gone)

def createdLog (c : Connection) : Log := .debug s!"session {c.id} created for {c.peer}"

def releasedLog (c : Connection) : Log := .debug s!"session {c.id} released"

def dump (t : SessionTable) : List Log :=
  .info s!"current session count: {t.count}" :: Log.inOrder (t.live.map (·.dumpLog))

end SessionTable

end Connector
