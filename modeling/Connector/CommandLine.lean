import Connector.EnvFile
import Connector.Settings.Reader
import Connector.Settings.Text

/-! The command line of a node.

- `CommandLine.parse`: the options that arguments give, or why the program ends before it starts.
- `CommandLine.run`: what the program does with its arguments, its files and its environment. -/

namespace Connector

/-- What a user asked for. -/
structure CommandLine where
  /-- Path of the settings file. -/
  conf : Option String := none
  printConfig : Bool := false
  verbosity : Nat := 0
  deriving DecidableEq, Repr

namespace CommandLine

/-! ## Texts -/

inductive Topic where
  | program
  | printConfig
  | help
  deriving DecidableEq, Repr

def aboutPrintConfig : String := "print the effective configuration and exit"

def aboutHelp : String := "Print this message or the help of the given subcommand(s)"

def Topic.text : Topic → String
  | program =>
      "Usage: starx [OPTIONS] [COMMAND]\n\n" ++
      "Commands:\n" ++
      "  print-config  " ++ aboutPrintConfig ++ "\n" ++
      "  help          " ++ aboutHelp ++ "\n\n" ++
      "Options:\n" ++
      "  -c, --conf <CONF>  path to config file\n" ++
      "  -v, --verbose...   log level when RUST_LOG is unset (v: info, vv: debug, vvv: trace)\n" ++
      "  -h, --help         Print help\n" ++
      "  -V, --version      Print version\n"
  | printConfig =>
      aboutPrintConfig ++ "\n\n" ++
      "Usage: starx print-config\n\n" ++
      "Options:\n" ++
      "  -h, --help  Print help\n"
  | help =>
      aboutHelp ++ "\n\n" ++
      "Usage: starx help [COMMAND]...\n\n" ++
      "Arguments:\n" ++
      "  [COMMAND]...  Print help for the subcommand(s)\n"

def versionText : String := "starx 0.1.0\n"

/-! ## Arguments -/

/-- Why arguments end the program. -/
inductive Ending where
  | help (topic : Topic)
  | version
  | misuse
  deriving DecidableEq, Repr

/-- An option whose value is on its way. -/
inductive Pending where
  | nothing
  /-- The value is the next argument. -/
  | awaited
  /-- The value came, but does not count before the next option. -/
  | given (value : String)
  deriving DecidableEq, Repr

/-- Options so far. -/
structure Draft where
  options : CommandLine := {}
  pending : Pending := .nothing
  deriving DecidableEq, Repr

namespace Draft

/-- The path of the settings file can be given once. -/
def setConf (d : Draft) (value : String) : Except Ending Draft :=
  if d.options.conf.isSome then .error .misuse
  else .ok ⟨{ d.options with conf := some value }, .nothing⟩

/-- Lets the option that came before count. -/
def settle (d : Draft) : Except Ending Draft :=
  match d.pending with
  | .nothing => .ok d
  | .awaited => .error .misuse
  | .given value => d.setConf value

def verbose (d : Draft) : Except Ending Draft := do
  let d ← d.settle
  return { d with options := { d.options with verbosity := d.options.verbosity + 1 } }

def awaitConf (d : Draft) : Except Ending Draft := do
  return { ← d.settle with pending := .awaited }

def giveConf (d : Draft) (value : String) : Except Ending Draft := do
  (← d.settle).setConf value

/-- Ends the program, if what came before is no fault. -/
def stop (d : Draft) (ending : Ending) : Except Ending Draft := do
  let _ ← d.settle
  .error ending

/-- Options of one letter each behind one dash. The value of one may follow it, with or without an equals
sign. -/
def letters (d : Draft) : List Char → Except Ending Draft
  | [] => .ok d
  | 'v' :: rest => do letters (← d.verbose) rest
  | 'h' :: _ => d.stop (.help .program)
  | 'V' :: _ => d.stop .version
  | ['c'] => d.awaitConf
  | 'c' :: '=' :: value => d.giveConf (String.ofList value)
  | 'c' :: value => d.giveConf (String.ofList value)
  | _ => .error .misuse

/-- An option with a long name. -/
def longName (d : Draft) (name : List Char) : Except Ending Draft :=
  match name.takeWhile (· ≠ '='), name.dropWhile (· ≠ '=') with
  | option, '=' :: value =>
      if option = "conf".toList then d.giveConf (String.ofList value) else .error .misuse
  | option, _ =>
      if option = "conf".toList then d.awaitConf
      else if option = "verbose".toList then d.verbose
      else if option = "help".toList then d.stop (.help .program)
      else if option = "version".toList then d.stop .version
      else .error .misuse

end Draft

/-- Help on a command. Commands have none of their own. -/
def helpOn : List String → Ending
  | [] => .help .program
  | ["print-config"] => .help .printConfig
  | ["help"] => .help .help
  | _ => .misuse

/-- Arguments behind the command that prints the settings. It has no options but for help. -/
def printArguments : List String → Except Ending Unit
  | [] | ["--"] => .ok ()
  | argument :: _ =>
      if argument = "--help" || "-h".toList.isPrefixOf argument.toList then .error (.help .printConfig)
      else .error .misuse

/-- Reads arguments one by one. Behind two dashes no argument has a meaning. -/
def parseFrom (d : Draft) : List String → Except Ending CommandLine
  | [] => do return (← d.settle).options
  | argument :: rest =>
      if d.pending ≠ .awaited && argument = "print-config" then do
        printArguments rest
        let d ← d.settle
        return { d.options with printConfig := true }
      else if d.pending ≠ .awaited && argument = "help" then .error (helpOn rest)
      else
        match argument.toList with
        | ['-', '-'] => if rest.isEmpty then do return (← d.settle).options else .error .misuse
        | '-' :: '-' :: name => do parseFrom (← d.longName name) rest
        | '-' :: c :: cs => do parseFrom (← d.letters (c :: cs)) rest
        | _ =>
            match d.pending with
            | .awaited => parseFrom { d with pending := .given argument } rest
            | _ => .error .misuse

def parse (arguments : List String) : Except Ending CommandLine := parseFrom {} arguments

/-! ## The program -/

def defaultPath : String := "./conf.toml"

/-- The file with variables for the environment. -/
def variablesPath : String := ".env"

inductive Outcome where
  | exit (code : Nat) (output : String)
  /-- Serve clients until told to stop. -/
  | serve (settings : Settings) (verbosity : Nat)
  deriving Repr

def Ending.outcome : Ending → Outcome
  | help topic => .exit 0 topic.text
  | version => .exit 0 versionText
  | misuse => .exit 2 ""

/-- The program dies. -/
def dead : Outcome := .exit 101 ""

/-- The files that the program looks at. -/
def sources (arguments : List String) : List String :=
  match parse arguments with
  | .error _ => [variablesPath]
  | .ok asked => variablesPath :: Settings.candidates (asked.conf.getD defaultPath)

def withVariables? (files : Directory) (environment : Environment) : Option Environment :=
  match files.find? variablesPath with
  | some file => EnvFile.load? environment file
  | none => some environment

def start (asked : CommandLine) (files : Directory) (environment : Environment) : Outcome :=
  match Settings.load files environment (asked.conf.getD defaultPath) with
  | .error (.refused _) => .exit 1 ""
  | .error .misplaced => dead
  | .ok settings =>
      if asked.printConfig then .exit 0 (settings.json ++ "\n") else .serve settings asked.verbosity

/-- Variables are taken in before any argument is looked at. -/
def run (arguments : List String) (files : Directory) (environment : Environment) : Outcome :=
  match withVariables? files environment with
  | none => dead
  | some environment =>
      match parse arguments with
      | .error ending => ending.outcome
      | .ok asked => start asked files environment

end CommandLine

end Connector
