import Connector.Admission
import Connector.Toil

/-! Nodes: a hub that serves clients, from the first connection to the end of the last.

- `Node.step?`: one move of any party, unless the move has to wait.
- `Node.settle`: moves until nothing can move by itself. -/

namespace Connector

/-- Why nothing more is accepted. -/
inductive AcceptError where
  | admission (cause : AdmissionError)
  | listener (text : String)
  deriving DecidableEq, Repr

def AcceptError.toError : AcceptError → Error
  | admission cause => cause.toError
  | listener text => .detailedIo s!"accept tcp server error: {text}"

/-- Whoever accepts connections. -/
inductive Acceptor where
  | idle
  /-- Has a permit for the next connection. After a failure it waits for so many seconds. -/
  | admitted (backoff : Nat)
  | stopped
  | failed (cause : AcceptError)
  deriving DecidableEq, Repr

def Acceptor.isAdmitted : Acceptor → Bool
  | admitted _ => true
  | _ => false

def Acceptor.toil : Acceptor → Nat
  | idle => 5
  | admitted _ => 4
  | stopped | failed _ => 0

inductive Node.Phase where
  | serving
  /-- Nothing more is accepted. -/
  | closing
  /-- The shutdown signal was sent. -/
  | signalled
  /-- The node has let go of its own sender and waits for the lines to let go of theirs. -/
  | waiting
  | stopped
  deriving DecidableEq, Repr

/-- A client that waits to be accepted, with what its stream gave so far. -/
structure Caller where
  peer : Address
  script : List Arrival
  deriving DecidableEq, Repr

/-- What the line of the caller will have to do, and its acceptance. -/
def Caller.toil (cost most : Nat) (caller : Caller) : Nat :=
  Inlet.weight caller.script * (cost + 3) + 5 * most + 17

def Caller.arrive (caller : Caller) (a : Arrival) : Caller :=
  { caller with script := caller.script ++ [a] }

/-- `backlog` are the callers in order. Lines stay when they are over. -/
structure Node (ε : Type) where
  hub : Hub ε
  admission : Admission
  acceptor : Acceptor
  backlog : List Caller
  lines : List Line
  completion : Completion
  phase : Node.Phase

namespace Node

variable {ε : Type}

inductive Move where
  /-- A client reaches the node. -/
  | connect (peer : Address)
  | permit
  | accept
  /-- The listener fails to accept. -/
  | stumble (text : String)
  /-- The stream of a client gives something more. Callers count on from the lines. -/
  | arrive (index : Nat) (a : Arrival)
  | wait (milliseconds : Nat)
  | line (index : Nat) (move : Line.Move)
  /-- A line that is over lets go of its completion sender. -/
  | part (index : Nat)
  /-- The node is asked to shut down. -/
  | shutDown
  | signal
  | dismiss
  /-- The node sees that every line is over. -/
  | complete
  deriving DecidableEq, Repr

def new (hub : Hub ε) : Node ε :=
  ⟨hub, .new hub.settings.network.maxConnection, .idle, [], [], .new, .serving⟩

/-- How many lines take up a permit. -/
def served (n : Node ε) : Nat := n.lines.countP (·.isServed)

/-! ## Accepting -/

/-- Accepting ends for good. -/
def fail (n : Node ε) (cause : AcceptError) : Node ε × Trace ε :=
  ({ n with acceptor := .failed cause, phase := .closing },
    .log (.error s!"failed to accept cause={cause.toError.message}"))

def permit? (n : Node ε) : Option (Node ε × Trace ε) :=
  match n.acceptor with
  | .idle =>
      match n.admission.acquire with
      | .ok (some admission) => some ({ n with admission, acceptor := .admitted 1 }, .empty)
      | .ok none => none
      | .error cause => some (n.fail (.admission cause))
  | _ => none

/-- A line waits for the shutdown signal and holds up the completion from its acceptance on. -/
def accept? (n : Node ε) : Option (Node ε × Trace ε) :=
  match n.acceptor, n.backlog with
  | .admitted _, caller :: backlog =>
      let line := Line.accept n.hub.settings caller.peer caller.script
      some ({ n with
          acceptor := .idle, backlog, lines := n.lines ++ [line]
          completion := n.completion.join n.lines.length },
        .log (.debug s!"accept new connection from {caller.peer}"))
  | _, _ => none

/-- Some failures are waited out, each twice as long as the one before. -/
def stumble? (n : Node ε) (text : String) : Option (Node ε × Trace ε) :=
  match n.acceptor with
  | .admitted backoff =>
      if 64 < backoff then
        some ({ n with admission := n.admission.giveBack }.fail (.listener text))
      else
        some ({ n with acceptor := .admitted (backoff * 2) },
          .log (.error s!"accept failed, retry in {backoff}s: {text}"))
  | _ => none

def connect (n : Node ε) (peer : Address) : Node ε := { n with backlog := n.backlog ++ [⟨peer, []⟩] }

/-- A stream that is not ready gives nothing. -/
def arrive (n : Node ε) (index : Nat) (a : Arrival) : Node ε :=
  if a = .notReady then n
  else if index < n.lines.length then { n with lines := n.lines.modify index (·.arrive a) }
  else { n with backlog := n.backlog.modify (index - n.lines.length) (·.arrive a) }

/-- Time passes. -/
def wait (n : Node ε) (milliseconds : Nat) : Node ε :=
  { n with hub := { n.hub with now := n.hub.now + milliseconds } }

/-! ## Serving -/

/-- A line that ends gives its permit back. -/
def line? (n : Node ε) (index : Nat) (move : Line.Move) : Option (Node ε × Trace ε) := do
  let l ← n.lines[index]?
  let moved ← l.step? n.hub move
  let admission := if moved.line.isLeft then n.admission.giveBack else n.admission
  return ({ n with hub := moved.hub, admission, lines := n.lines.set index moved.line }, moved.trace)

def part? (n : Node ε) (index : Nat) : Option (Node ε) :=
  match n.lines[index]? with
  | some l =>
      if l.isLeft && n.completion.lines.contains index then
        some { n with completion := n.completion.part index }
      else none
  | none => none

/-! ## Shutting down -/

/-- A permit for a connection that is not accepted any more goes back. -/
def shutDown? (n : Node ε) : Option (Node ε) :=
  match n.phase with
  | .serving =>
      let admission := if n.acceptor.isAdmitted then n.admission.giveBack else n.admission
      some { n with admission, acceptor := .stopped, phase := .closing }
  | _ => none

def signal (l : Line) : Line := { l with latch := l.latch.send.1 }

def signal? (n : Node ε) : Option (Node ε) :=
  match n.phase with
  | .closing => some { n with lines := n.lines.map signal, phase := .signalled }
  | _ => none

def dismiss? (n : Node ε) : Option (Node ε × Trace ε) :=
  match n.phase with
  | .signalled =>
      some ({ n with completion := n.completion.dismiss, phase := .waiting },
        ⟨[], [.debug "tcp server dropped", .trace "waiting for connection handlers to finish..."]⟩)
  | _ => none

def complete? (n : Node ε) : Option (Node ε × Trace ε) :=
  match n.phase with
  | .waiting =>
      if n.completion.isOver then
        some ({ n with phase := .stopped }, .log (.info "node shutdown complete"))
      else none
  | _ => none

/-! ## Runs -/

/-- Moves that nobody reports. -/
def silent (moved : Option (Node ε)) : Option (Node ε × Trace ε) := moved.map (·, .empty)

def step? (n : Node ε) : Move → Option (Node ε × Trace ε)
  | .connect peer => some (n.connect peer, .empty)
  | .arrive index a => some (n.arrive index a, .empty)
  | .wait milliseconds => some (n.wait milliseconds, .empty)
  | .permit => n.permit?
  | .accept => n.accept?
  | .stumble text => n.stumble? text
  | .line index move => n.line? index move
  | .part index => silent (n.part? index)
  | .shutDown => silent n.shutDown?
  | .signal => silent n.signal?
  | .dismiss => n.dismiss?
  | .complete => n.complete?

/-- The node after a sequence of moves, with what happened. -/
def run? (n : Node ε) : List Move → Option (Node ε × Trace ε)
  | [] => some (n, .empty)
  | move :: moves => do
      let (next, first) ← n.step? move
      let (last, later) ← next.run? moves
      return (last, first ++ later)

/-! ## Rest -/

def lineMoves (index : Nat) : List Line → List Move
  | [] => []
  | l :: rest => l.schedule.map (.line index) ++ .part index :: lineMoves (index + 1) rest

/-- Moves that a node makes by itself, in the order in which it tries them. -/
def schedule (n : Node ε) : List Move :=
  .permit :: .accept :: .signal :: .dismiss :: lineMoves 0 n.lines ++ [.complete]

/-- The first move that need not wait. -/
def next? (n : Node ε) : Option (Node ε × Trace ε) := n.schedule.findSome? n.step?

def settleFor : Nat → Node ε → Node ε × Trace ε
  | 0, n => (n, .empty)
  | fuel + 1, n =>
      match n.next? with
      | none => (n, .empty)
      | some (next, first) =>
          let (last, later) := settleFor fuel next
          (last, first ++ later)

def Phase.toil : Phase → Nat
  | serving => 4
  | closing => 3
  | signalled => 2
  | waiting => 1
  | stopped => 0

def callersToil (cost most : Nat) : List Caller → Nat
  | [] => 0
  | caller :: rest => caller.toil cost most + callersToil cost most rest

def linesToil (cost most : Nat) (h : Hub ε) : List Line → Nat
  | [] => 0
  | l :: rest => l.load cost most h + linesToil cost most h rest

/-- How much the node has still to do by itself, with a `cost` for each packet and so many buffers at most
queued for a client. -/
def toil (cost most : Nat) (n : Node ε) : Nat :=
  n.acceptor.toil + n.phase.toil + n.completion.lines.length + callersToil cost most n.backlog +
    linesToil cost most n.hub n.lines

/-- As many moves as the node makes by itself, or more. A packet may get the most into every queue. -/
def patience (n : Node ε) : Nat :=
  let most := n.hub.mostQueued
  n.toil ((n.lines.length + n.backlog.length) * (5 * most) + 1) most

/-- The node once it has come to rest. -/
def settle (n : Node ε) : Node ε × Trace ε := settleFor n.patience n

end Node

end Connector
