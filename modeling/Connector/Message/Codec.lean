import Connector.Message
import Connector.RouteDictionary
import Connector.Text.Utf8
import Connector.Varint

/-! The wire form of messages: a flag octet with the kind in bits one to three and bit zero set for a route
code; then, as the kind has them, an id and a route; then the body. A route is a code of two octets, high one
first, or a length octet and that many octets of text.

- `Message.encode`: the wire form, with a code for a route that the dictionary knows.
- `Message.decode`: the message in a wire form, or the first thing wrong with it. -/

namespace Connector

inductive DecodeError where
  | empty
  | unknownKind (code : Nat)
  | truncatedId
  | truncatedCode
  | unknownCode (code : Nat)
  | missingRouteLength
  | truncatedRoute
  | routeNotText (fault : Utf8.Fault)
  deriving DecidableEq, Repr

namespace DecodeError

def detail : DecodeError → String
  | empty => "empty message"
  | unknownKind code => s!"unknown message type {code}"
  | truncatedId => "truncated message id"
  | truncatedCode => "truncated route code"
  | unknownCode code => s!"unknown route code {code}"
  | missingRouteLength => "missing route length"
  | truncatedRoute => "truncated route"
  | routeNotText fault => s!"route is not utf-8: {fault.message}"

def toError (e : DecodeError) : Error := .malformedProtocol e.detail

end DecodeError

/-- A route without a code that one octet cannot count. -/
structure RouteTooLong where
  route : String
  deriving DecidableEq, Repr

def RouteTooLong.toError (e : RouteTooLong) : Error := .invalidValue s!"route too long: {e.route}"

namespace Message

def maxRouteLength : Nat := 255

/-! ## Reading -/

def takeKind (flag : UInt8) : Except DecodeError MessageKind :=
  let code := flag.toNat / 2 % 8
  match MessageKind.ofCode? code with
  | some kind => .ok kind
  | none => .error (.unknownKind code)

def takeId (b : Bytes) : Except DecodeError (UInt64 × Bytes) :=
  match Varint.decode b with
  | some found => .ok found
  | none => .error .truncatedId

def takeCode (d : RouteDictionary) : Bytes → Except DecodeError (String × Bytes)
  | high :: low :: rest =>
      let code := high.toNat * 256 + low.toNat
      match d.route? code with
      | some route => .ok (route, rest)
      | none => .error (.unknownCode code)
  | _ => .error .truncatedCode

def takeText : Bytes → Except DecodeError (String × Bytes)
  | [] => .error .missingRouteLength
  | length :: rest =>
      if Bytes.reaches length.toNat rest then
        match Utf8.decode (rest.take length.toNat) with
        | .ok route => .ok (route, rest.drop length.toNat)
        | .error fault => .error (.routeNotText fault)
      else .error .truncatedRoute

def takeRoute (d : RouteDictionary) (coded : Bool) (b : Bytes) : Except DecodeError (String × Bytes) :=
  if coded then takeCode d b else takeText b

def decode (d : RouteDictionary) : Bytes → Except DecodeError Message
  | [] => .error .empty
  | flag :: rest => do
      let kind ← takeKind flag
      let (id, rest) ← if kind.hasId then takeId rest else .ok (0, rest)
      let (route, body) ←
        if kind.hasRoute then takeRoute d (flag.toNat % 2 == 1) rest else .ok ("", rest)
      return ⟨kind, id, route, body⟩

/-! ## Writing -/

/-- The code of the route, if the message has a route and the dictionary knows it. -/
def code? (d : Option RouteDictionary) (m : Message) : Option Nat :=
  if m.kind.hasRoute then d.bind (·.code? m.route) else none

def flag (kind : MessageKind) (coded : Bool) : UInt8 := UInt8.ofNat (kind.code * 2 + coded.toNat)

def idField (m : Message) : Bytes := if m.kind.hasId then Varint.encode m.id else []

def codeField (code : Nat) : Bytes := [UInt8.ofNat (code / 256), UInt8.ofNat code]

def textField (route : String) : Except RouteTooLong Bytes :=
  let octets := Bytes.ofString route
  if maxRouteLength < octets.length then .error ⟨route⟩
  else .ok (UInt8.ofNat octets.length :: octets)

def routeField (m : Message) : Option Nat → Except RouteTooLong Bytes
  | some code => .ok (codeField code)
  | none => if m.kind.hasRoute then textField m.route else .ok []

def encode (d : Option RouteDictionary) (m : Message) : Except RouteTooLong Bytes :=
  let code := m.code? d
  match m.routeField code with
  | .error e => .error e
  | .ok route => .ok (flag m.kind code.isSome :: (m.idField ++ route ++ m.body))

end Message

end Connector
