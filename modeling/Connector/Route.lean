import Connector.Error
import Connector.Text.Quoted

/-! Routes: which method of which service on which kind of server a message is for.

- `Route.parse`: a route from its text, three segments that are not empty with a point between them.
- `Route.text`: the segments joined by points. -/

namespace Connector

structure Route where
  serverType : String
  service : String
  method : String
  deriving DecidableEq, Repr

structure InvalidRoute where
  text : String
  deriving DecidableEq, Repr

def InvalidRoute.toError (e : InvalidRoute) : Error :=
  .malformedProtocol s!"invalid route: {Text.quoted e.text}"

namespace Route

/-- What stands between the points. A text has one segment more than it has points. -/
def segments : List Char → List (List Char)
  | [] => [[]]
  | c :: cs =>
      if c = '.' then [] :: segments cs
      else
        match segments cs with
        | [] => [[c]]
        | s :: ss => (c :: s) :: ss

def parse (text : String) : Except InvalidRoute Route :=
  match segments text.toList with
  | [a :: as, b :: bs, c :: cs] =>
      .ok ⟨String.ofList (a :: as), String.ofList (b :: bs), String.ofList (c :: cs)⟩
  | _ => .error ⟨text⟩

def text (r : Route) : String := r.serverType ++ "." ++ r.service ++ "." ++ r.method

def describe (r : Route) : String :=
  "RouteInfo \x7b server_type: " ++ Text.quoted r.serverType ++ ", service: " ++
    Text.quoted r.service ++ ", method: " ++ Text.quoted r.method ++ " \x7d"

end Route

end Connector
