import Connector.Queue

/-! The read side of one connection: a reader that takes packets off the stream, a bounded queue, and a
processor that works on one packet at a time.

- `Pipeline.step?`: one move of either party, unless the move has to wait.
- `Pipeline.underway`: the packets that were taken and are not yet processed, in order. -/

namespace Connector

variable {α : Type}

/-- What the reader is at. Past its last packet it takes the connection down step by step. -/
inductive Reader (α : Type) where
  | reading
  /-- Waits for room in the queue. -/
  | holding (a : α)
  | ended
  /-- The session is closed and out of the table. -/
  | released
  /-- Nothing more comes into the queue. -/
  | detached
  /-- The processor was told to finish. -/
  | cancelled
  /-- The processor was seen to end. -/
  | joined
  deriving DecidableEq, Repr

inductive Processor (α : Type) where
  | idle
  | busy (a : α)
  /-- Told to finish, with what is queued still to do. -/
  | draining
  | drainingBusy (a : α)
  | exited
  deriving DecidableEq, Repr

structure Pipeline (α : Type) where
  reader : Reader α
  queue : Queue α
  processor : Processor α
  deriving Repr

namespace Pipeline

inductive Move (α : Type) where
  /-- The reader gets a packet. -/
  | take (a : α)
  /-- The reader stops waiting for a packet to look at the clock, and waits again. -/
  | look
  /-- The queue takes the packet that the reader holds. -/
  | push
  /-- The reader is done: the stream ended or broke, the client fell silent, or the node shuts down. -/
  | quit
  | release
  | detach
  | cancel
  | join
  /-- The processor gets the next packet, or finds that there are no more. -/
  | receive
  | finish
  /-- The processor sees that it was told to finish. -/
  | drain
  deriving DecidableEq, Repr

def new (capacity : Nat) : Pipeline α := ⟨.reading, .empty capacity, .idle⟩

/-- Whether the reader has let go of the queue. -/
def isDetached (p : Pipeline α) : Bool :=
  match p.reader with
  | .detached | .cancelled | .joined => true
  | _ => false

def isCancelled (p : Pipeline α) : Bool :=
  match p.reader with
  | .cancelled | .joined => true
  | _ => false

def isExited (p : Pipeline α) : Bool :=
  match p.processor with
  | .exited => true
  | _ => false

/-! ## Moves of the reader -/

def take? (p : Pipeline α) (a : α) : Option (Pipeline α) :=
  match p.reader with
  | .reading => some { p with reader := .holding a }
  | _ => none

def look? (p : Pipeline α) : Option (Pipeline α) :=
  match p.reader with
  | .reading => some p
  | _ => none

/-- A full queue makes the reader wait. A closed one would end it. -/
def push? (p : Pipeline α) : Option (Pipeline α) :=
  match p.reader with
  | .holding a =>
      match p.queue.offer a with
      | .ok queue => some { p with reader := .reading, queue }
      | .error .full => none
      | .error .closed => some { p with reader := .ended }
  | _ => none

def quit? (p : Pipeline α) : Option (Pipeline α) :=
  match p.reader with
  | .reading => some { p with reader := .ended }
  | _ => none

def release? (p : Pipeline α) : Option (Pipeline α) :=
  match p.reader with
  | .ended => some { p with reader := .released }
  | _ => none

def detach? (p : Pipeline α) : Option (Pipeline α) :=
  match p.reader with
  | .released => some { p with reader := .detached }
  | _ => none

def cancel? (p : Pipeline α) : Option (Pipeline α) :=
  match p.reader with
  | .detached => some { p with reader := .cancelled }
  | _ => none

def join? (p : Pipeline α) : Option (Pipeline α) :=
  match p.reader, p.processor with
  | .cancelled, .exited => some { p with reader := .joined }
  | _, _ => none

/-! ## Moves of the processor -/

/-- The order to finish goes before the queue. -/
def receive? (p : Pipeline α) : Option (Pipeline α) :=
  match p.processor, p.queue.items with
  | .idle, a :: rest =>
      if p.isCancelled then none
      else some { p with processor := .busy a, queue := { p.queue with items := rest } }
  | .idle, [] =>
      if p.isCancelled then none
      else if p.isDetached then some { p with processor := .exited }
      else none
  | .draining, a :: rest =>
      some { p with processor := .drainingBusy a, queue := { p.queue with items := rest } }
  | .draining, [] => some { p with processor := .exited }
  | _, _ => none

/-- The packet that the processor works on. -/
def current? (p : Pipeline α) : Option α :=
  match p.processor with
  | .busy a | .drainingBusy a => some a
  | _ => none

def finish? (p : Pipeline α) : Option (Pipeline α) :=
  match p.processor with
  | .busy _ => some { p with processor := .idle }
  | .drainingBusy _ => some { p with processor := .draining }
  | _ => none

def drain? (p : Pipeline α) : Option (Pipeline α) :=
  match p.processor with
  | .idle =>
      if p.isCancelled then some { p with processor := .draining, queue := p.queue.close } else none
  | _ => none

/-! ## Moves of either -/

def step? (p : Pipeline α) : Move α → Option (Pipeline α)
  | .take a => p.take? a
  | .look => p.look?
  | .push => p.push?
  | .quit => p.quit?
  | .release => p.release?
  | .detach => p.detach?
  | .cancel => p.cancel?
  | .join => p.join?
  | .receive => p.receive?
  | .finish => p.finish?
  | .drain => p.drain?

def held : Reader α → List α
  | .holding a => [a]
  | _ => []

/-- The packet that is worked on, the queue, and the packet that waits for room in it. -/
def underway (p : Pipeline α) : List α := p.current?.toList ++ p.queue.items ++ held p.reader

/-- What a move takes off the stream. -/
def taken : Move α → List α
  | .take a => [a]
  | _ => []

/-- What a move gets done. -/
def done (p : Pipeline α) : Move α → List α
  | .finish => p.current?.toList
  | _ => []

/-- One move loses, repeats and reorders nothing, if the queue is open for a packet that waits for room. -/
theorem underway_step {p q : Pipeline α} {move : Move α}
    (isOpen : ∀ a, p.reader = .holding a → p.queue.closed = false) (h : p.step? move = some q) :
    p.done move ++ q.underway = p.underway ++ taken move := by
  obtain ⟨reader, queue, processor⟩ := p
  cases move
  case push =>
    simp only [step?, push?] at h
    split at h
    · split at h
      · next heq =>
          simp at h
          subst h
          simp [underway, done, taken, held, Queue.items_offer heq]
          rfl
      · simp at h
      · next heq =>
          have isClosed := Queue.offer_closed_iff.1 heq
          simp_all
    · simp at h
  all_goals
    simp only [step?, take?, look?, quit?, release?, detach?, cancel?, join?, receive?, finish?,
      drain?] at h
    repeat' split at h
    all_goals simp at h
    all_goals subst h
    all_goals simp_all [underway, done, taken, current?, held, Queue.close]

end Pipeline

end Connector
