import Connector.Hub
import Connector.Inlet
import Connector.Pipeline
import Connector.Shutdown
import Connector.Writer

/-! Lines: a client's connection while a node serves it, from its acceptance to its end.

- `Line.step?`: one move on a line, within the hub of its node, unless the move has to wait.
- `Line.isServed`, `Line.isLeft`: whether a line takes up a permit, and whether it is over. -/

namespace Connector

inductive Line.Stage where
  /-- Accepted, with a latch for the shutdown signal, but not begun. -/
  | spawned
  | serving
  /-- The writer was told to stop. -/
  | stopping
  | left
  deriving DecidableEq, Repr

/-- Why a line stops reading. -/
inductive Line.Ending where
  | streamEnd
  | fault (cause : ReadError)
  | signal
  | silence
  deriving DecidableEq, Repr

def Line.Ending.logs (session : Nat) : Line.Ending → List Log
  | streamEnd => [.info s!"session {session} closed"]
  | fault cause => [.info s!"session {session} closed({cause.toError.message})"]
  | signal =>
      [.debug s!"session {session} exit read loop after recv shutdown signal",
        .info s!"session {session} closed"]
  | silence => [.warn s!"session {session} heartbeat timeout", .info s!"session {session} closed"]

/-- `session` is zero until the line begins. -/
structure Line where
  peer : Address
  stage : Line.Stage
  session : Nat
  latch : Shutdown
  inlet : Inlet
  pipeline : Pipeline Packet
  writer : Writer

namespace Line

inductive Move where
  /-- The line begins: it gets its session. -/
  | start
  /-- A packet is read, or an end. -/
  | read
  /-- The client was silent for too long. -/
  | timeOut
  /-- The shutdown signal is seen. -/
  | notice
  | look
  | push
  | release
  | detach
  | cancel
  | join
  | receive
  | finish
  | drain
  /-- The writer is told to stop, once the processor has ended. -/
  | stop
  | write (move : Writer.Move)
  /-- The line ends, once the writer has. -/
  | leave
  deriving DecidableEq, Repr

/-- A line of a client whose stream gave something before. -/
def accept (settings : Settings) (peer : Address) (script : List Arrival) : Line :=
  { peer, stage := .spawned, session := 0, latch := .new
    inlet := .new script settings.network.connReadBufferSize settings.network.maxPackageSize
    pipeline := .new settings.network.packetBufferSize
    writer := .new }

def isLeft (l : Line) : Bool := l.stage = .left

def isServed (l : Line) : Bool := !l.isLeft

/-- What a move makes of the line and the hub, and what happened. -/
structure Moved (ε : Type) where
  line : Line
  hub : Hub ε
  trace : Trace ε

variable {ε : Type}

/-- A move of the pipeline alone. -/
def onPipeline (l : Line) (h : Hub ε) (moved : Option (Pipeline Packet)) : Option (Moved ε) :=
  moved.map fun pipeline => ⟨{ l with pipeline }, h, .empty⟩

def start? (l : Line) (h : Hub ε) : Option (Moved ε) :=
  match l.stage with
  | .spawned =>
      let (hub, c, line) := h.connect h.settings.network.writeBufferSize l.peer
      some ⟨{ l with stage := .serving, session := c.id }, hub, ⟨[], line :: hub.table.dump⟩⟩
  | _ => none

def quit? (l : Line) (h : Hub ε) (ending : Ending) : Option (Moved ε) :=
  l.pipeline.quit?.map fun pipeline => ⟨{ l with pipeline }, h, ⟨[], ending.logs l.session⟩⟩

/-- The answer of the next read, once what has come from the client allows one. -/
def answer? (l : Line) : Option (ReadResult × Inlet) :=
  match Inlet.poll { l.inlet with script := l.inlet.script ++ [.notReady] } with
  | (none, _) => none
  | (some result, next) => some (result, { next with script := next.script.dropLast })

def read? (l : Line) (h : Hub ε) : Option (Moved ε) :=
  match l.answer? with
  | none => none
  | some (.ok (some p), inlet) => onPipeline { l with inlet } h (l.pipeline.take? p)
  | some (.ok none, inlet) => quit? { l with inlet } h .streamEnd
  | some (.error cause, inlet) => quit? { l with inlet } h (.fault cause)

/-- Times are in milliseconds, the limit is in seconds. -/
def isSilent (l : Line) (h : Hub ε) : Bool :=
  match h.settings.heartbeat.timeout?, h.table.find? l.session with
  | some limit, some c => limit * 1000 < c.idleTime h.now
  | _, _ => false

def timeOut? (l : Line) (h : Hub ε) : Option (Moved ε) :=
  if l.isSilent h then l.quit? h .silence else none

def notice? (l : Line) (h : Hub ε) : Option (Moved ε) :=
  match l.latch.recv with
  | (_, false) => none
  | (latch, true) => quit? { l with latch } h .signal

/-- The session leaves the table, closed. -/
def release? (l : Line) (h : Hub ε) : Option (Moved ε) :=
  l.pipeline.release?.map fun pipeline =>
    let (hub, _, lines) := h.release l.session
    ⟨{ l with pipeline }, hub, ⟨[], lines ++ hub.table.dump⟩⟩

/-- The packet that the processor works on meets its fate. -/
def finish? (l : Line) (h : Hub ε) : Option (Moved ε) := do
  let p ← l.pipeline.current?
  let pipeline ← l.pipeline.finish?
  let (hub, trace) := h.process l.session p
  return ⟨{ l with pipeline }, hub, trace⟩

def stop? (l : Line) (h : Hub ε) : Option (Moved ε) :=
  match l.stage, l.pipeline.reader with
  | .serving, .joined => some ⟨{ l with stage := .stopping }, h, .empty⟩
  | _, _ => none

/-- The line itself can send until it leaves. -/
def write? (l : Line) (h : Hub ε) (move : Writer.Move) : Option (Moved ε) := do
  let c ← h.table.find? l.session
  let surroundings := ⟨c.session.outbound, true, l.stage = .stopping⟩
  let (writer, outbound) ← l.writer.step? surroundings move
  let hub := h.putSession (.connected l.session) { c.session with outbound }
  return ⟨{ l with writer }, hub, .empty⟩

def leave? (l : Line) (h : Hub ε) : Option (Moved ε) :=
  if l.stage = .stopping && l.writer.isExited then
    some ⟨{ l with stage := .left }, h, .log (.debug s!"end reading session {l.session}")⟩
  else none

/-- The client's stream gives something more. -/
def arrive (l : Line) (a : Arrival) : Line :=
  { l with inlet := { l.inlet with script := l.inlet.script ++ [a] } }

/-- Moves of a line that has begun. -/
def serve? (l : Line) (h : Hub ε) : Move → Option (Moved ε)
  | .read => l.read? h
  | .timeOut => l.timeOut? h
  | .notice => l.notice? h
  | .look => l.onPipeline h l.pipeline.look?
  | .push => l.onPipeline h l.pipeline.push?
  | .release => l.release? h
  | .detach => l.onPipeline h l.pipeline.detach?
  | .cancel => l.onPipeline h l.pipeline.cancel?
  | .join => l.onPipeline h l.pipeline.join?
  | .receive => l.onPipeline h l.pipeline.receive?
  | .finish => l.finish? h
  | .drain => l.onPipeline h l.pipeline.drain?
  | .stop => l.stop? h
  | .write move => l.write? h move
  | .leave => l.leave? h
  | .start => none

def step? (l : Line) (h : Hub ε) (move : Move) : Option (Moved ε) :=
  match move, l.stage with
  | .start, _ => l.start? h
  | _, .spawned | _, .left => none
  | move, _ => l.serve? h move

/-! ## A schedule -/

/-- A writer goes on with all that it has. -/
def writerMoves (w : Writer) : List Writer.Move :=
  (if w.current.isEmpty then [] else [.write w.current.length]) ++
    (if w.kept.isEmpty then [] else [.hand w.kept.length]) ++ [.flushed, .receive, .stop]

/-- Moves in the order in which a line tries them. What goes out comes before what is worked on, and that
before what comes in. -/
def schedule (l : Line) : List Move :=
  .start :: (writerMoves l.writer).map .write ++
    [.finish, .receive, .drain, .push, .read, .notice, .release, .detach, .cancel, .join, .stop, .leave]

end Line

end Connector
