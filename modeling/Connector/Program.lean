import Connector.Session

/-! Handler programs: what a handler method does with the session it is given, one act after another. The
answer to a send decides how the program goes on.

- `Program.run`: the session after the program, what the program reported, and how it panicked if it did.
- `Method`: a program for each session and body. -/

namespace Connector

/-- What a panic carries. Only texts have a wording. -/
inductive Payload where
  | text (message : String)
  | opaqueValue
  deriving DecidableEq, Repr

def Payload.message : Payload → String
  | text message => message
  | opaqueValue => "unknown panic payload"

/-- Reports go to the host of the handler, who gives them their type. -/
inductive Program (ε : Type) where
  | done
  | report (event : ε) (next : Program ε)
  | respond (body : Bytes) (next : Except SendError Unit → Program ε)
  | push (route : String) (body : Bytes) (next : Except SendError Unit → Program ε)
  | bind (uid : String) (next : Program ε)
  | setPending (id : UInt64) (next : Program ε)
  | clearPending (next : Program ε)
  | panic (payload : Payload)

abbrev Method (ε : Type) := Session → Bytes → Program ε

structure Run (ε : Type) where
  session : Session
  reports : List ε
  panic : Option Payload

namespace Program

variable {ε : Type}

def run : Program ε → Session → Run ε
  | done, s => ⟨s, [], none⟩
  | report event next, s =>
      let later := next.run s
      { later with reports := event :: later.reports }
  | respond body next, s => (next (s.respond body).2).run (s.respond body).1
  | push route body next, s => (next (s.push route body).2).run (s.push route body).1
  | bind uid next, s => next.run (s.bind uid)
  | setPending id next, s => next.run (s.setPending id)
  | clearPending next, s => next.run s.clearPending
  | panic payload, s => ⟨s, [], some payload⟩

end Program

end Connector
