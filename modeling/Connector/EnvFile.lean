import Connector.Environment
import Connector.Text.Alphanumeric
import Connector.Text.Blank

/-! Files of environment variables, one `NAME=value` a line.

- `EnvFile.load?`: an environment with the variables of such a file added. What the environment has already
  stays, and the file counts up to its first faulty line. No environment has room for a value with a zero
  character.
- `EnvFile.value?`: the text of a value, with quotes, escapes and the values of other variables. -/

namespace Connector.EnvFile

abbrev Chars := List Char

/-! ## Values -/

/-- Where a reader stands in a value. Three of the places know whether they are between double quotes. -/
inductive Place where
  | bare
  /-- Between single quotes, where nothing is special. -/
  | strong
  /-- Between double quotes. -/
  | weak
  /-- Past a blank that ended the value. -/
  | ended
  /-- Past a backslash. -/
  | escape (quoted : Bool)
  /-- Past a dollar sign and some of a variable's name, which is kept backwards. -/
  | name (quoted : Bool) (name : Chars)
  /-- Past a dollar sign, a brace and some of a variable's name, which is kept backwards. -/
  | braced (quoted : Bool) (name : Chars)

/-- Back between double quotes, or out of quotes. -/
def Place.back (quoted : Bool) : Place := if quoted then .weak else .bare

def escaped? : Char → Option Char
  | 'n' => some '\n'
  | c => if c ∈ ['\\', '\'', '"', '$', ' '] then some c else none

/-- Quotes must be closed before a value ends, and so must braces. -/
def atEnd? (valueOf : Chars → Chars) : Place → Option Chars
  | .bare | .ended | .escape false => some []
  | .name false name => some (valueOf name.reverse)
  | _ => none

/-- The character after a variable's name stands for itself, also where it would be special elsewhere. -/
def value? (valueOf : Chars → Chars) : Place → Chars → Option Chars
  | place, [] => atEnd? valueOf place
  | .ended, c :: rest =>
      if c == ' ' || c == '\t' then value? valueOf .ended rest
      else if c == '#' then some []
      else none
  | .escape quoted, c :: rest =>
      match escaped? c with
      | some char => (value? valueOf (.back quoted) rest).map (char :: ·)
      | none => none
  | .strong, c :: rest =>
      if c == '\'' then value? valueOf .bare rest
      else (value? valueOf .strong rest).map (c :: ·)
  | .name quoted name, c :: rest =>
      if Text.isAlphanumeric c then value? valueOf (.name quoted (c :: name)) rest
      else if c == '\x7b' && name.isEmpty then value? valueOf (.braced quoted []) rest
      else if c == '$' then (value? valueOf (.name quoted []) rest).map (valueOf name.reverse ++ ·)
      else (value? valueOf (.back quoted) rest).map (valueOf name.reverse ++ c :: ·)
  | .braced quoted name, c :: rest =>
      if c == '\x7d' then (value? valueOf (.back quoted) rest).map (valueOf name.reverse ++ ·)
      else value? valueOf (.braced quoted (c :: name)) rest
  | .weak, c :: rest =>
      if c == '$' then value? valueOf (.name true []) rest
      else if c == '"' then value? valueOf .bare rest
      else if c == '\\' then value? valueOf (.escape true) rest
      else (value? valueOf .weak rest).map (c :: ·)
  | .bare, c :: rest =>
      if c == '$' then value? valueOf (.name false []) rest
      else if c == '\'' then value? valueOf .strong rest
      else if c == '"' then value? valueOf .weak rest
      else if c == '\\' then value? valueOf (.escape false) rest
      else if c == ' ' || c == '\t' then value? valueOf .ended rest
      else (value? valueOf .bare rest).map (c :: ·)

/-! ## Lines -/

def skipBlank (cs : Chars) : Chars := cs.dropWhile Text.isBlank

def isBare (cs : Chars) : Bool := cs.isEmpty || cs.head? == some '#'

def isNameStart (c : Char) : Bool := c.isAlpha || c == '_'

def isNameChar (c : Char) : Bool := c.isAlphanum || c == '_' || c == '.'

def name? (cs : Chars) : Option (Chars × Chars) :=
  match cs with
  | c :: _ =>
      if isNameStart c then
        let name := cs.takeWhile isNameChar
        some (name, skipBlank (cs.drop name.length))
      else none
  | [] => none

/-- What follows an equals sign and blanks. -/
def equals? : Chars → Option Chars
  | '=' :: rest => some (skipBlank rest)
  | _ => none

/-- A name and its value as written. The word `export` may stand before a name. -/
def assignment? (cs : Chars) : Option (Chars × Chars) := do
  let (name, rest) ← name? cs
  match equals? rest with
  | some value => return (name, value)
  | none =>
      if name = "export".toList then
        let (name, rest) ← name? rest
        return (name, ← equals? rest)
      else none

def valueOf (environment : Environment) (name : Chars) : Chars :=
  (environment.seek? name).getD []

/-- What a line can be. -/
inductive Line where
  | empty
  | assign (name : String) (value : Chars)
  | faulty

def Line.read (environment : Environment) (line : Chars) : Line :=
  let cs := skipBlank (Text.trimEnd line)
  if isBare cs then empty
  else
    match assignment? cs with
    | none => faulty
    | some (name, written) =>
        if isBare written then assign (String.ofList name) []
        else
          match value? (valueOf environment) .bare written with
          | some value => assign (String.ofList name) value
          | none => faulty

/-- A name that an environment has already keeps its value. -/
def bind? (environment : Environment) (name : String) (value : Chars) : Option Environment :=
  if (environment.get? name).isSome then some environment
  else if '\x00' ∈ value then none
  else some (environment ++ [(name, String.ofList value)])

def lines? : Environment → List String → Option Environment
  | environment, [] => some environment
  | environment, line :: rest =>
      match Line.read environment line.toList with
      | .empty => lines? environment rest
      | .assign name value => (bind? environment name value).bind fun environment => lines? environment rest
      | .faulty => some environment

def load? (environment : Environment) (file : String) : Option Environment :=
  lines? environment (file.splitOn "\n")

end Connector.EnvFile
