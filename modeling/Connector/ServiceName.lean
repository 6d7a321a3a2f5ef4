import Connector.Text.Blank
import Connector.Text.Uppercase

/-! Names of services and methods.

- `serviceName`: the last part of a type's path, without generic arguments and without blanks around it.
- `isExported`: public names start with a capital. -/

namespace Connector.ServiceName

/-- What stands after the last pair of colons, if there is one. -/
def afterLastColons : List Char → Option (List Char)
  | [] => none
  | c :: rest =>
      match afterLastColons rest with
      | some name => some name
      | none =>
          match c, rest with
          | ':', ':' :: name => some name
          | _, _ => none

def ofPath (path : List Char) : List Char := (afterLastColons path).getD path

def ofType (typeName : List Char) : List Char :=
  Text.trim (ofPath (typeName.takeWhile (· != '<')))

end Connector.ServiceName

namespace Connector

def serviceName (typeName : String) : String := String.ofList (ServiceName.ofType typeName.toList)

def isExported (name : String) : Bool := name.toList.head?.any Text.isUppercase

end Connector
