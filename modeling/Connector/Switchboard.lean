import Connector.Program
import Connector.Registry
import Connector.Route

/-! The switchboard: where a message goes, to a method of this node or to the queue of another one.

- `Switchboard.dispatch`: a call of a registered method. A panic ends there.
- `Switchboard.forward`: a request to another node, dropped when its queue does not take it.
- `Switchboard.route`: the fate of a message. Whatever cannot go on is dropped with a diagnostic. -/

namespace Connector

/-- Who a request comes from: a connection by its id, or a session that no connection stands behind. -/
inductive Origin where
  | connected (id : Nat)
  | detached (index : Nat)
  deriving DecidableEq, Repr

inductive ForwardKind where
  | system | user
  deriving DecidableEq, Repr

def ForwardKind.name : ForwardKind → String
  | system => "Sys"
  | user => "User"

/-- A request for another node, with the id that was pending when it was made. -/
structure Forward where
  kind : ForwardKind
  route : Route
  origin : Origin
  pending : UInt64
  body : Bytes
  deriving DecidableEq, Repr

inductive DispatchError where
  | serviceNotFound (service : String)
  | methodNotFound (service method : String)
  | handlerPanicked (route message : String)
  deriving DecidableEq, Repr

def DispatchError.message : DispatchError → String
  | serviceNotFound service => s!"service: {service} not found"
  | methodNotFound service method => s!"method: {service}.{method} not found"
  | handlerPanicked route message => s!"handler {route} panicked: {message}"

/-- One call of a handler method, with what it was given and what it reported. -/
structure Call (ε : Type) where
  service : String
  method : String
  session : Nat
  pending : UInt64
  body : Bytes
  reports : List ε
  panic : Option Payload

/-- What happened on the way: handler calls and diagnostics, each in order. -/
structure Trace (ε : Type) where
  calls : List (Call ε)
  logs : List Log

namespace Trace

variable {ε : Type}

def empty : Trace ε := ⟨[], []⟩

def log (line : Log) : Trace ε := ⟨[], [line]⟩

def append (a b : Trace ε) : Trace ε := ⟨a.calls ++ b.calls, a.logs ++ b.logs⟩

instance : Append (Trace ε) := ⟨append⟩

end Trace

structure Switchboard (ε : Type) where
  registry : Registry (Method ε)
  forwards : Queue Forward

/-- The switchboard and the session after a message, with what happened. -/
structure Routed (ε : Type) where
  board : Switchboard ε
  session : Session
  trace : Trace ε

namespace Switchboard

variable {ε : Type}

def noMethod (b : Switchboard ε) (route : Route) : DispatchError :=
  if b.registry.serves route.service then .methodNotFound route.service route.method
  else .serviceNotFound route.service

/-- The count goes up before the method runs. -/
def dispatch (b : Switchboard ε) (s : Session) (route : Route) (body : Bytes) :
    Routed ε × Except DispatchError Unit :=
  match b.registry.find? route.service route.method with
  | none => (⟨b, s, .empty⟩, .error (b.noMethod route))
  | some entry =>
      let run := (entry.method s body).run s
      let call : Call ε :=
        ⟨route.service, route.method, s.id, s.pending, body, run.reports, run.panic⟩
      let board := { b with registry := b.registry.count route.service route.method }
      let result :=
        match run.panic with
        | none => .ok ()
        | some payload => .error (.handlerPanicked route.text payload.message)
      (⟨board, run.session, ⟨[call], []⟩⟩, result)

def forward (b : Switchboard ε) (kind : ForwardKind) (origin : Origin) (s : Session) (route : Route)
    (body : Bytes) : Switchboard ε × Log :=
  match b.forwards.offer ⟨kind, route, origin, s.pending, body⟩ with
  | .ok forwards => ({ b with forwards }, .trace s!"forwarded {route.text} for session {s.id}")
  | .error .full => (b, .warn s!"rpc queue full, drop {route.text} for session {s.id}")
  | .error .closed => (b, .warn s!"rpc queue closed, drop {route.text} for session {s.id}")

/-- The session as it serves the message, or why it does not. Id zero could never be answered. -/
def accept (s : Session) (m : Message) (route : Route) : Except Log Session :=
  match m.kind with
  | .request =>
      if m.id = Session.noPending then
        .error (.warn
          s!"drop request with reserved id {m.id.toNat} from session {s.id} for {route.text}")
      else .ok (s.setPending m.id)
  | .notify => .ok s.clearPending
  | kind =>
      .error (.warn s!"invalid message type {kind.name} from session {s.id} for {route.text}")

/-- An accepted message goes to a method here or to another node. -/
def send (b : Switchboard ε) (origin : Origin) (s : Session) (route : Route) (body : Bytes) :
    Routed ε :=
  if route.serverType = b.registry.serverType then
    let begun : Trace ε := .log (.debug s!"local dispatch {route.text} for session {s.id}")
    let (routed, result) := b.dispatch s route body
    let ended : Trace ε :=
      match result with
      | .ok () => .empty
      | .error e => .log (.warn s!"drop message from session {s.id}: {e.message}")
    { routed with trace := begun ++ routed.trace ++ ended }
  else
    let begun : Trace ε := .log (.debug s!"remote dispatch {route.text} for session {s.id}")
    let (board, line) := b.forward .system origin s route body
    ⟨board, s, begun ++ .log line⟩

def route (b : Switchboard ε) (origin : Origin) (s : Session) (m : Message) : Routed ε :=
  match Route.parse m.route with
  | .error e => ⟨b, s, .log (.warn s!"drop message from session {s.id}: {e.toError.message}")⟩
  | .ok route =>
      match accept s m route with
      | .error line => ⟨b, s, .log line⟩
      | .ok session => b.send origin session route m.body

end Switchboard

end Connector
