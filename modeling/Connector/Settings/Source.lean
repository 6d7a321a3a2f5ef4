import Connector.Directory
import Connector.Environment
import Connector.Error
import Connector.Json.Reader
import Connector.Settings.KeyPath
import Connector.Toml.Reader

/-! Where settings come from: a file, and environment variables that override it.

- `Settings.gather`: all that the sources say, as one value tree, or why there is none. -/

namespace Connector.Settings

/-! ## Files -/

inductive Format where
  | toml
  | json
  deriving DecidableEq, Repr

namespace Format

def extension : Format → String
  | toml => "toml"
  | json => "json"

def ofExtension? (text : String) : Option Format := [toml, json].find? fun f => f.extension = text

def read? : Format → String → Option Value
  | toml, text => Toml.read? text
  | json, text => Json.read? text

end Format

/-- What follows the last point of a file's name. A point at its start does not count. -/
def extension? (path : String) : Option String :=
  match ((path.splitOn "/").getLast?.getD "").splitOn "." with
  | [] | [_] | ["", _] => none
  | parts => parts.getLast?

/-- The path with an extension. Blank segments at its end are dropped, and a path that ends in no name
takes none. -/
def withExtension? (path : String) (format : Format) : Option String :=
  match ((path.splitOn "/").reverse.dropWhile fun s => !Directory.isName s) with
  | [] | ".." :: _ => none
  | name :: folders => some ("/".intercalate (s!"{name}.{format.extension}" :: folders).reverse)

/-- The paths of the files that a path can name. -/
def candidates (path : String) : List String :=
  path :: [Format.toml, .json].filterMap (withExtension? path)

/-- The file that a path names, with or without its extension. -/
def locate? (files : Directory) (path : String) : Option (Format × String) :=
  match files.find? path with
  | some text => ((extension? path).bind Format.ofExtension?).map (·, text)
  | none =>
      [Format.toml, .json].findSome? fun format => do
        return (format, ← files.find? (← withExtension? path format))

def readFile? (files : Directory) (path : String) : Option (Fields Value) := do
  let (format, text) ← locate? files path
  match ← format.read? text with
  | .table fields => some fields
  | _ => none

/-! ## Environment variables -/

/-- What the names of variables that count start with. -/
def mark : List Char := "starx__".toList

/-- Two underscores stand between the parts of a name. -/
def pointed : List Char → List Char
  | '_' :: '_' :: rest => '.' :: pointed rest
  | c :: rest => c :: pointed rest
  | [] => []

/-- The name of the setting that a variable is for. -/
def settingName? (name : String) : Option String :=
  let small := name.toList.map Value.lower
  if mark.isPrefixOf small then some (String.ofList (pointed (small.drop mark.length))) else none

def ofEnvironment (environment : Environment) : Fields Value :=
  environment.filterMap fun (name, text) => (settingName? name).map (·, .text text)

/-! ## Both -/

/-- Names in the sources are paths. A later name overrides an earlier one. -/
def setAll? (named : Fields Value) (root : Value) : Option Value :=
  named.foldlM (fun root (name, v) => (KeyPath.ofText name).set? v root) root

/-- Why there are no settings. -/
inductive Failure where
  | refused (cause : Error)
  /-- A name has an index that its array has no place for. A program that asks for settings dies of it. -/
  | misplaced
  deriving DecidableEq, Repr

def gather (files : Directory) (environment : Environment) (path : String) : Except Failure Value :=
  match readFile? files path with
  | none => .error (.refused .configFile)
  | some named =>
      match setAll? (named ++ ofEnvironment environment) (.table []) with
      | some root => .ok root
      | none => .error .misplaced

end Connector.Settings
