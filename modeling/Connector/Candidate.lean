import Connector.Log
import Connector.ServiceName

/-! Candidates: the methods that a handler component lists, and which of them can be called.

- `Candidate.table`: the callable ones, one for each name, by name. Of several with one name the last wins.
- `Candidate.skipLogs`: what is said about the others. -/

namespace Connector

/-- The shape of a method's signature. Only a shared handler with a session and a body can be called. -/
inductive Shape (μ : Type) where
  | handler (method : μ)
  | exclusive
  | sessionOnly
  | bodyOnly

structure Candidate (μ : Type) where
  name : String
  shape : Shape μ

/-- A component before its registration: the state that its set-up hook may change, and methods that
depend on the state it ends up with. -/
structure Component (σ μ : Type) where
  typeName : String
  state : σ
  setUp : σ → σ
  candidates : List (Candidate (σ → μ))

namespace Shape

variable {μ ν : Type}

def signature : Shape μ → String
  | handler _ => "fn(&self, &Arc<Session>, Bytes)"
  | exclusive => "fn(&mut self, &Arc<Session>, Bytes)"
  | sessionOnly => "fn(&self, &Arc<Session>)"
  | bodyOnly => "fn(&self, Bytes)"

def method? : Shape μ → Option μ
  | handler m => some m
  | _ => none

def isExclusive : Shape μ → Bool
  | exclusive => true
  | _ => false

def map (f : μ → ν) : Shape μ → Shape ν
  | handler m => handler (f m)
  | exclusive => exclusive
  | sessionOnly => sessionOnly
  | bodyOnly => bodyOnly

end Shape

/-- The candidates of a component once its set-up hook has run. -/
def Component.listed {σ μ : Type} (c : Component σ μ) : List (Candidate μ) :=
  let state := c.setUp c.state
  c.candidates.map fun candidate => ⟨candidate.name, candidate.shape.map (· state)⟩

namespace Candidate

variable {μ : Type}

def exported (c : Candidate μ) : Bool := isExported c.name

def binding? (c : Candidate μ) : Option (String × μ) :=
  if c.exported then c.shape.method?.map (c.name, ·) else none

/-- Of neighbours with one name only the last stays. -/
def lastOfEach (pairs : List (String × μ)) : List (String × μ) :=
  pairs.foldr
    (fun pair kept =>
      match kept with
      | [] => [pair]
      | next :: _ => if pair.1 = next.1 then kept else pair :: kept)
    []

def table (candidates : List (Candidate μ)) : List (String × μ) :=
  lastOfEach ((candidates.filterMap binding?).mergeSort fun a b => decide (a.1 ≤ b.1))

/-- Whether an exported candidate wants the handler for itself. -/
def anyExclusive (candidates : List (Candidate μ)) : Bool :=
  candidates.any fun c => c.exported && c.shape.isExclusive

def skipLog? (service : String) (c : Candidate μ) : Option Log :=
  if !c.exported then some (.debug s!"skip method {service}.{c.name}: not exported")
  else
    match c.shape with
    | .handler _ => none
    | shape => some (.debug s!"skip method {service}.{c.name}: unsuitable signature {shape.signature}")

def skipLogs (service : String) (candidates : List (Candidate μ)) : List Log :=
  candidates.filterMap (skipLog? service)

end Candidate

end Connector
