/-! The shutdown signal with the latch of one who waits for it, and the completion that the sender waits for.

- `Shutdown.send`: the signal. It stays to be seen.
- `Shutdown.recv`: looks for the signal, or for the end of its sender. Once seen, it is seen for good.
- `Completion.isOver`: whether everyone who took part has gone. -/

namespace Connector

/-- `pending` counts signals not yet looked at, `seen` is the latch. -/
structure Shutdown where
  pending : Bool
  senderGone : Bool
  seen : Bool
  deriving DecidableEq, Repr

namespace Shutdown

def new : Shutdown := ⟨false, false, false⟩

/-- Fails once the sender is gone. -/
def send (s : Shutdown) : Shutdown × Bool :=
  if s.senderGone then (s, false) else ({ s with pending := true }, true)

def drop (s : Shutdown) : Shutdown := { s with senderGone := true }

/-- Whether the wait is over. A lost signal counts as one, and so does the end of the sender. -/
def recv (s : Shutdown) : Shutdown × Bool :=
  if s.seen then (s, true)
  else if s.pending || s.senderGone then ({ s with pending := false, seen := true }, true)
  else (s, false)

end Shutdown

/-! ## Completion -/

/-- A channel that nothing is ever sent on: whoever waits for a message waits until the last sender is gone.
`own` tells whether the node still has the first one, `lines` which lines have a clone of it. -/
structure Completion where
  own : Bool
  lines : List Nat
  deriving DecidableEq, Repr

namespace Completion

def new : Completion := ⟨true, []⟩

def join (c : Completion) (line : Nat) : Completion := { c with lines := c.lines ++ [line] }

def part (c : Completion) (line : Nat) : Completion :=
  { c with lines := c.lines.filter fun other => other ≠ line }

def dismiss (c : Completion) : Completion := { c with own := false }

def isOver (c : Completion) : Bool := !c.own && c.lines.isEmpty

end Completion

end Connector
