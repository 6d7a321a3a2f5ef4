/-! Environment variables.

- `Environment.entry?`: a variable out of its entry `name=value`.
- `Environment.get?`: the value of a variable. The first of several of one name counts.
- `Environment.seek?`: what stands behind a name and an equals sign among all variables, `name=value` each.
  A name with equals signs in it leads into a value. -/

namespace Connector

abbrev Environment := List (String × String)

/-- An equals sign at the start of an entry belongs to the name. -/
def Environment.entry? (entry : String) : Option (String × String) :=
  match entry.toList with
  | [] => none
  | c :: rest =>
      match rest.dropWhile (· ≠ '=') with
      | _ :: value => some (String.ofList (c :: rest.takeWhile (· ≠ '=')), String.ofList value)
      | [] => none

def Environment.get? (environment : Environment) (name : String) : Option String :=
  environment.lookup name

/-- What follows a list at the front of another. -/
def after? : List Char → List Char → Option (List Char)
  | [], rest => some rest
  | a :: as, b :: bs => if a = b then after? as bs else none
  | _ :: _, [] => none

/-- What stands behind a name in one variable. -/
def seekIn? (name : List Char) : String × String → Option (List Char)
  | (own, value) =>
      match after? own.toList name with
      | some [] => some value.toList
      | some ('=' :: more) =>
          let start := more ++ ['=']
          if value.startsWith (String.ofList start) then after? start value.toList else none
      | _ => none

/-- An empty name leads nowhere. -/
def Environment.seek? (environment : Environment) (name : List Char) : Option (List Char) :=
  if name.isEmpty then none else environment.findSome? (seekIn? name)

end Connector
