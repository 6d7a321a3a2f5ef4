import Connector.Session

/-! The write side of one connection: a writer takes buffers off the outbound queue and hands their octets
to the client, by way of a buffer of its own.

- `Writer.step?`: one move of the writer, unless the move has to wait.
- `Outlet.step?`: the writer beside a session that goes on sending, and the order to stop.
- `Outlet.run?`: a sequence of moves. -/

namespace Connector

/-- What a writer is at. -/
inductive Writer.Stage where
  /-- Waits for a buffer or for the order to stop. -/
  | waiting
  /-- Has so many octets of a buffer still to take over. -/
  | writing (rest : Bytes)
  | flushing
  /-- Was told to stop, with what is queued still to write. -/
  | draining
  | drainWriting (rest : Bytes)
  | lastFlush
  /-- Hands out what is left and closes the client's stream. -/
  | closing
  | exited
  deriving DecidableEq, Repr

/-- `kept` are the octets that the writer took over and did not hand out yet, `handed` those that it
handed to the client so far. -/
structure Writer where
  stage : Writer.Stage
  kept : Bytes
  handed : Bytes
  deriving DecidableEq, Repr

namespace Writer

inductive Move where
  /-- Gets a buffer, or sees that there will be no more. -/
  | receive
  /-- Sees the order to stop, and closes the queue. -/
  | stop
  /-- Takes over so many octets of the buffer. -/
  | write (n : Nat)
  /-- Hands out so many of the octets that it keeps. -/
  | hand (n : Nat)
  /-- Sees that all it kept was handed out. -/
  | flushed
  /-- The client's stream is broken. -/
  | fail
  deriving DecidableEq, Repr

def new : Writer := ⟨.waiting, [], []⟩

def isExited (w : Writer) : Bool :=
  match w.stage with
  | .exited => true
  | _ => false

/-- `senders` tells whether anyone can still send, `stopped` whether the writer was told to stop. What the
queue holds is still written then. -/
structure Surroundings where
  queue : Queue Bytes
  senders : Bool
  stopped : Bool
  deriving Repr

def receive? (w : Writer) (s : Surroundings) : Option (Writer × Queue Bytes) :=
  match w.stage, s.queue.items with
  | .waiting, data :: items => some ({ w with stage := .writing data }, { s.queue with items })
  | .waiting, [] => if s.senders then none else some ({ w with stage := .closing }, s.queue)
  | .draining, data :: items => some ({ w with stage := .drainWriting data }, { s.queue with items })
  | .draining, [] => some ({ w with stage := .lastFlush }, s.queue)
  | _, _ => none

def stop? (w : Writer) (s : Surroundings) : Option (Writer × Queue Bytes) :=
  match w.stage with
  | .waiting => if s.stopped then some ({ w with stage := .draining }, s.queue.close) else none
  | _ => none

def write? (w : Writer) (n : Nat) : Option Writer :=
  match w.stage with
  | .writing rest => some { w with stage := .writing (rest.drop n), kept := w.kept ++ rest.take n }
  | .drainWriting rest =>
      some { w with stage := .drainWriting (rest.drop n), kept := w.kept ++ rest.take n }
  | _ => none

def hand? (w : Writer) (n : Nat) : Option Writer :=
  match w.stage with
  | .waiting | .exited => none
  | _ => some { w with kept := w.kept.drop n, handed := w.handed ++ w.kept.take n }

/-- A buffer that was taken over is flushed before the next, but for those of a drain, which are flushed
together. -/
def flushed? (w : Writer) : Option Writer :=
  match w.stage with
  | .writing [] => some { w with stage := .flushing }
  | .drainWriting [] => some { w with stage := .draining }
  | .flushing => if w.kept.isEmpty then some { w with stage := .waiting } else none
  | .lastFlush => if w.kept.isEmpty then some { w with stage := .closing } else none
  | .closing => if w.kept.isEmpty then some { w with stage := .exited } else none
  | _ => none

def fail? (w : Writer) : Option Writer :=
  match w.stage with
  | .writing _ | .flushing | .lastFlush => some { w with stage := .closing }
  | .drainWriting _ => some { w with stage := .lastFlush }
  | .closing => some { w with stage := .exited }
  | _ => none

/-- Moves that leave the queue as it is, but for the end of the writer, which is that of its queue. -/
def alone (s : Surroundings) (w : Option Writer) : Option (Writer × Queue Bytes) :=
  w.map fun w => (w, if w.isExited then s.queue.abandon else s.queue)

/-- The writer and the queue after a move. -/
def step? (w : Writer) (s : Surroundings) : Move → Option (Writer × Queue Bytes)
  | .receive => w.receive? s
  | .stop => w.stop? s
  | .write n => alone s (w.write? n)
  | .hand n => alone s (w.hand? n)
  | .flushed => alone s w.flushed?
  | .fail => alone s w.fail?

/-- The octets of the buffer that the writer is at. -/
def current (w : Writer) : Bytes :=
  match w.stage with
  | .writing rest | .drainWriting rest => rest
  | _ => []

end Writer

/-! ## With its session -/

structure Outlet where
  session : Session
  writer : Writer
  senders : Bool
  stopped : Bool
  deriving Repr

namespace Outlet

inductive Move where
  | send (octets : Bytes)
  /-- The last of those who could send goes away. -/
  | leave
  /-- The writer is told to stop. -/
  | stop
  | write (move : Writer.Move)
  deriving DecidableEq, Repr

def surroundings (o : Outlet) : Writer.Surroundings := ⟨o.session.outbound, o.senders, o.stopped⟩

def write? (o : Outlet) (move : Writer.Move) : Option Outlet :=
  (o.writer.step? o.surroundings move).map fun (writer, outbound) =>
    { o with writer, session := { o.session with outbound } }

def step? (o : Outlet) : Move → Option Outlet
  | .send octets => if o.senders then some { o with session := (o.session.send octets).1 } else none
  | .leave => some { o with senders := false }
  | .stop => some { o with stopped := true }
  | .write move => o.write? move

/-- The buffers that a move gets into the queue. -/
def accepted (o : Outlet) : Move → List Bytes
  | .send octets => if (o.session.send octets).2.isOk then [octets] else []
  | _ => []

/-- The outlet after a sequence of moves, with the buffers that its queue accepted. -/
def run? (o : Outlet) : List Move → Option (Outlet × List Bytes)
  | [] => some (o, [])
  | move :: moves => do
      let next ← o.step? move
      let (last, later) ← next.run? moves
      return (last, o.accepted move ++ later)

end Outlet

end Connector
