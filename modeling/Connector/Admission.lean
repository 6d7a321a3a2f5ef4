import Connector.Error

/-! Permits for connections: as many at a time as the limit.

- `Admission.acquire`: a permit, if one is free. Closed admission gives none for good.
- `Admission.giveBack`: a permit returned. -/

namespace Connector

structure Admission where
  free : Nat
  closed : Bool
  deriving DecidableEq, Repr

inductive AdmissionError where
  | closed
  deriving DecidableEq, Repr

def AdmissionError.toError : AdmissionError → Error
  | closed => .illegalState "semaphore closed"

namespace Admission

def new (limit : Nat) : Admission := ⟨limit, false⟩

def close (a : Admission) : Admission := { a with closed := true }

/-- Nothing while no permit is free. -/
def acquire (a : Admission) : Except AdmissionError (Option Admission) :=
  if a.closed then .error .closed
  else if a.free = 0 then .ok none
  else .ok (some { a with free := a.free - 1 })

def giveBack (a : Admission) : Admission := { a with free := a.free + 1 }

end Admission

end Connector
