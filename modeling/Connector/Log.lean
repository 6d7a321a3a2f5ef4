/-! Diagnostics: lines of text with a level.

- `Log.inOrder`: lines of one level by their text, for walks whose own order means nothing. -/

namespace Connector

inductive Level where
  | error | warn | info | debug | trace
  deriving DecidableEq, Repr

structure Log where
  level : Level
  text : String
  deriving DecidableEq, Repr

namespace Log

def error (text : String) : Log := ⟨.error, text⟩
def warn (text : String) : Log := ⟨.warn, text⟩
def info (text : String) : Log := ⟨.info, text⟩
def debug (text : String) : Log := ⟨.debug, text⟩
def trace (text : String) : Log := ⟨.trace, text⟩

def inOrder (lines : List Log) : List Log := lines.mergeSort fun a b => decide (a.text ≤ b.text)

end Log

end Connector
