import Connector.Line

/-! Toil: how much a line has still to do, if nothing more comes from outside.

- `Line.toil`: what a line has to do but for its queue. Each packet has a `cost` of its own.
- `Hub.queued`, `Hub.mostQueued`: how many buffers are queued for a client, and how many there may be.
- `Line.load`: both together. -/

namespace Connector

def Reader.toil {α : Type} (cost : Nat) : Reader α → Nat
  | reading => 5
  | holding _ => cost + 7
  | ended => 4
  | released => 3
  | detached => 2
  | cancelled => 1
  | joined => 0

def Processor.toil {α : Type} (cost : Nat) : Processor α → Nat
  | idle => 2
  | busy _ => cost + 2
  | draining => 1
  | drainingBusy _ => cost + 1
  | exited => 0

/-- A packet costs one more for every place that it goes through. -/
def Pipeline.toil {α : Type} (cost : Nat) (p : Pipeline α) : Nat :=
  p.reader.toil cost + p.queue.items.length * (cost + 1) + p.processor.toil cost

def Writer.Stage.toil : Writer.Stage → Nat
  | writing rest => if rest.isEmpty then 6 else 8
  | flushing => 5
  | waiting => 4
  | drainWriting rest => if rest.isEmpty then 4 else 6
  | draining => 3
  | lastFlush => 2
  | closing => 1
  | exited => 0

def Writer.toil (w : Writer) : Nat := w.stage.toil + if w.kept.isEmpty then 0 else 1

/-- Octets that came from a client and were not read, with one for each thing that its stream did. -/
def Inlet.unread (i : Inlet) : Nat := i.buffer.length + weight i.script

namespace Line

def Stage.toil : Stage → Nat
  | spawned => 3
  | serving => 2
  | stopping => 1
  | left => 0

/-- Every octet that is not read could be a packet. -/
def toil (cost : Nat) (l : Line) : Nat :=
  l.stage.toil + l.inlet.unread * (cost + 3) + l.pipeline.toil cost + l.writer.toil

end Line

/-! ## Queues -/

variable {ε : Type}

/-- The most that is queued for a client, or may get queued. -/
def Hub.mostQueued (h : Hub ε) : Nat :=
  h.table.connections.foldl
    (fun most c => max most (max c.session.outbound.capacity c.session.outbound.items.length))
    h.settings.network.writeBufferSize

/-- How many buffers are queued for the client of a session. -/
def Hub.queued (h : Hub ε) (id : Nat) : Nat :=
  ((h.session? (.connected id)).map (·.outbound.items.length)).getD 0

/-- The same for a line. Before it begins it is taken to be the most. -/
def Line.queued (most : Nat) (l : Line) (h : Hub ε) : Nat :=
  if l.stage = .spawned then most else h.queued l.session

/-- All that is left to a line. A buffer that waits in the queue counts for five. -/
def Line.load (cost most : Nat) (h : Hub ε) (l : Line) : Nat := l.toil cost + 5 * l.queued most h

end Connector
