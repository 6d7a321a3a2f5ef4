import Connector.CommandLine

/-! The program on a real machine: its files and its environment, read for `CommandLine.run`. -/

namespace Connector

def readText? (path : String) : IO (Option String) := do
  match ← (IO.FS.readFile path).toBaseIO with
  | .ok text => return some text
  | .error _ => return none

def readAll (paths : List String) : IO (List (String × String)) :=
  paths.filterMapM fun path => do return (← readText? path).map (path, ·)

def readEnvironment : IO Environment := do
  let entries := (← readText? "/proc/self/environ").getD ""
  return (entries.splitOn "\x00").filterMap Environment.entry?

end Connector

open Connector

def main (arguments : List String) : IO UInt32 := do
  let files : Directory := ⟨← readAll (CommandLine.sources arguments)⟩
  match CommandLine.run arguments files (← readEnvironment) with
  | .exit code output =>
      IO.print output
      return UInt32.ofNat code
  | .serve settings _ =>
      IO.eprintln s!"cannot serve on {settings.listenAddress}"
      return 1
