import Connector.Packet.Framing

/-! The read side of a connection: octets arrive as a source gives them and leave as packets.

- `Inlet.step`: a look at the buffer, and if no packet is there one read from the source.
- `Inlet.poll`: steps until there is an answer or the source is not ready.
- `Inlet.readPacket`: polls until there is an answer.
- `Awaiter.poll`: a poll by one who may drop a call that had to wait and make a new one. -/

namespace Connector

/-- What a source does when it is read. No octets mean the end of the stream. -/
inductive Arrival where
  | octets (data : Bytes)
  | notReady
  | failure (text : String)
  deriving DecidableEq, Repr

/-- After its script the source has only the end of the stream to give. -/
structure Inlet where
  script : List Arrival
  buffer : Bytes
  bufferSize : Nat
  limit : Nat

inductive ReadError where
  | packet (cause : PacketError)
  | failure (text : String)
  | connectionReset
  deriving DecidableEq, Repr

def ReadError.toError : ReadError → Error
  | packet cause => cause.toError
  | failure text => .io text
  | connectionReset => .io "connection reset by peer"

/-- A packet, or none once the stream has ended where a packet could have begun. -/
abbrev ReadResult := Except ReadError (Option Packet)

inductive ReadStep where
  | done (result : ReadResult) (next : Inlet)
  | again (next : Inlet)
  | waiting (next : Inlet)

namespace Inlet

def new (script : List Arrival) (bufferSize limit : Nat) : Inlet := ⟨script, [], bufferSize, limit⟩

/-- How much one read takes: what the buffer has room for. A full buffer grows to its double. -/
def room (i : Inlet) : Nat :=
  if i.buffer.length < i.bufferSize then i.bufferSize - i.buffer.length else max 64 i.buffer.length

/-- An end of the stream amid a packet is a broken connection. -/
def atEnd (i : Inlet) : ReadResult := if i.buffer.isEmpty then .ok none else .error .connectionReset

/-- One read. A piece that is too long for it leaves its rest for the next. -/
def read (i : Inlet) : ReadStep :=
  match i.script with
  | [] => .done i.atEnd i
  | .notReady :: script => .waiting { i with script }
  | .failure text :: script => .done (.error (.failure text)) { i with script }
  | .octets [] :: script => .done i.atEnd { i with script }
  | .octets data :: script =>
      let later := data.drop i.room
      let script := if later.isEmpty then script else .octets later :: script
      .again { i with buffer := i.buffer ++ data.take i.room, script }

/-- What the source has still to give: its octets, and one for each thing that it does. -/
def weight : List Arrival → Nat
  | [] => 0
  | .octets data :: script => data.length + 1 + weight script
  | _ :: script => 1 + weight script

theorem room_pos (i : Inlet) : 0 < i.room := by
  unfold room; split <;> omega

/-- A read that gives no answer takes something from the source. -/
theorem weight_read {i j : Inlet} (h : i.read = .again j ∨ i.read = .waiting j) :
    weight j.script < weight i.script := by
  obtain ⟨script, buffer, size, limit⟩ := i
  match script with
  | [] => simp [read] at h
  | .notReady :: script =>
      simp only [read, reduceCtorEq, ReadStep.waiting.injEq, false_or] at h
      subst h
      simp [weight]
  | .failure _ :: script => simp [read] at h
  | .octets [] :: script => simp [read] at h
  | .octets (b :: data) :: script =>
      have := room_pos ⟨.octets (b :: data) :: script, buffer, size, limit⟩
      simp only [read, reduceCtorEq, ReadStep.again.injEq, or_false] at h
      subst h
      simp only [weight]
      split
      · omega
      · simp only [weight, List.length_drop, List.length_cons]; omega

def step (i : Inlet) : ReadStep :=
  match Framing.parse i.limit i.buffer with
  | ⟨.error e, buffer, _⟩ => .done (.error (.packet e)) { i with buffer }
  | ⟨.ok (some p), buffer, _⟩ => .done (.ok (some p)) { i with buffer }
  | ⟨.ok none, buffer, _⟩ => { i with buffer }.read

theorem weight_step {i j : Inlet} (h : i.step = .again j ∨ i.step = .waiting j) :
    weight j.script < weight i.script := by
  unfold step at h
  split at h
  · simp at h
  · simp at h
  · next buffer _ _ =>
      have fewer := weight_read h
      exact fewer

/-- The answer, unless the source is not ready, and what is left. -/
def poll (i : Inlet) : Option ReadResult × Inlet :=
  match _h : i.step with
  | .done result next => (some result, next)
  | .waiting next => (none, next)
  | .again next => poll next
termination_by weight i.script
decreasing_by exact weight_step (.inl _h)

def readPacket (i : Inlet) : ReadResult × Inlet :=
  match _h : i.step with
  | .done result next => (result, next)
  | .waiting next => readPacket next
  | .again next => readPacket next
termination_by weight i.script
decreasing_by
  · exact weight_step (.inr _h)
  · exact weight_step (.inl _h)

/-- The answers to so many calls in a row. -/
def readPackets (i : Inlet) : Nat → List ReadResult
  | 0 => []
  | n + 1 =>
      let (result, next) := i.readPacket
      result :: next.readPackets n

/-- A call that had to wait goes on with its read. It does not look at the buffer again before. -/
def resume (i : Inlet) : Option ReadResult × Inlet :=
  match i.read with
  | .done result next => (some result, next)
  | .waiting next => (none, next)
  | .again next => next.poll

end Inlet

/-- One who waits for packets. A call that has to wait is `pending`. -/
structure Awaiter where
  inlet : Inlet
  pending : Bool

namespace Awaiter

def new (script : List Arrival) (bufferSize limit : Nat) : Awaiter := ⟨.new script bufferSize limit, false⟩

/-- A pending call is kept and polled again, or dropped for a new one. -/
def poll (a : Awaiter) (keep : Bool) : Option ReadResult × Awaiter :=
  let (answer, inlet) := if a.pending && keep then a.inlet.resume else a.inlet.poll
  (answer, ⟨inlet, answer.isNone⟩)

/-- The answers to a row of polls, and the awaiter after them. Each flag tells whether a pending call is kept. -/
def run (a : Awaiter) : List Bool → List ReadResult × Awaiter
  | [] => ([], a)
  | keep :: keeps =>
      let (answer, next) := a.poll keep
      let (later, last) := next.run keeps
      (answer.toList ++ later, last)

end Awaiter

end Connector
