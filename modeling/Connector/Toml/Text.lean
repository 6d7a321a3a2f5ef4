import Connector.Text.Hex

/-! The text level of settings files in TOML: blanks, comments, ends of lines and quoted strings.

- `Toml.endLine?`: what follows the line, if nothing but blanks and a comment is left of it.
- `Toml.quotedText?`: a string in one of the four forms of quotes, and what follows it. -/

namespace Connector.Toml

abbrev Chars := List Char

def isBlank (c : Char) : Bool := c == ' ' || c == '\t'

/-- What may stand in comments, and in strings but for what the string's own form excepts. -/
def isPlain (c : Char) : Bool := c == '\t' || (0x20 ≤ c.toNat && c.toNat != 0x7f)

def skipBlank (cs : Chars) : Chars := cs.dropWhile isBlank

/-! ## Lines -/

def newline? : Chars → Option Chars
  | '\n' :: rest => some rest
  | '\r' :: '\n' :: rest => some rest
  | _ => none

def skipComment : Chars → Chars
  | '#' :: rest => rest.dropWhile isPlain
  | cs => cs

def endLine? (cs : Chars) : Option Chars :=
  match skipComment (skipBlank cs) with
  | [] => some []
  | rest => newline? rest

/-- Skips blanks, ends of lines and comments. -/
def skipSpaceFrom (comment : Bool) : Chars → Chars
  | [] => []
  | '\r' :: '\n' :: rest => skipSpaceFrom false rest
  | c :: rest =>
      if c == '\n' then skipSpaceFrom false rest
      else if comment && isPlain c then skipSpaceFrom true rest
      else if isBlank c then skipSpaceFrom false rest
      else if c == '#' then skipSpaceFrom true rest
      else c :: rest

def skipSpace (cs : Chars) : Chars := skipSpaceFrom false cs

/-! ## Quoted strings -/

structure Quoting where
  mark : Char
  escapes : Bool
  /-- Marks come in threes, and the text may have line ends. -/
  lines : Bool

/-- Where a reader stands in a string. -/
inductive Place where
  | text
  /-- Past a backslash. -/
  | escape
  /-- In a character's code with so many digits to come. -/
  | code (missing value : Nat)
  /-- Past a backslash that hides the end of its line, with only blanks since. -/
  | lineEnd
  /-- Between a hidden line end and the text that goes on. -/
  | gap

def character? (code : Nat) : Option Char :=
  if code.isValidChar then some (Char.ofNat code) else none

def escaped? : Char → Option Char
  | '"' => some '"'
  | '\\' => some '\\'
  | 'b' => some '\x08'
  | 'f' => some '\x0c'
  | 'n' => some '\n'
  | 'r' => some '\r'
  | 't' => some '\t'
  | _ => none

def add (c : Char) : Option (Chars × Chars) → Option (Chars × Chars) :=
  Option.map fun (text, rest) => (c :: text, rest)

/-- Where text goes on after a hidden line end: past all blanks and line ends. -/
def afterLineEnd (rest : Chars) : Place :=
  match rest with
  | ' ' :: _ | '\t' :: _ | '\n' :: _ | '\r' :: '\n' :: _ => .gap
  | _ => .text

/-- The end of a string with triple marks, past the first mark. Two more marks close the string, and up to
two after those belong to the text. -/
def tripleEnd? (mark : Char) : Chars → Option (Chars × Chars)
  | a :: b :: rest =>
      if a == mark && b == mark then
        let extra := (rest.take 2).takeWhile (· == mark)
        some (extra, rest.drop extra.length)
      else none
  | _ => none

/-- The text of a string past its opening marks, and what follows the string. -/
def body? (q : Quoting) : Place → Chars → Option (Chars × Chars)
  | _, [] => none
  | .text, c :: rest =>
      if c == q.mark then
        if q.lines then
          match tripleEnd? q.mark rest with
          | some ending => some ending
          | none => add c (body? q .text rest)
        else some ([], rest)
      else if c == '\\' && q.escapes then body? q .escape rest
      else if isPlain c || (q.lines && c == '\n') then add c (body? q .text rest)
      else if q.lines && c == '\r' && rest.head? == some '\n' then body? q .text rest
      else none
  | .escape, c :: rest =>
      if c == 'u' then body? q (.code 4 0) rest
      else if c == 'U' then body? q (.code 8 0) rest
      else if q.lines && isBlank c then body? q .lineEnd rest
      else if q.lines && c == '\n' then body? q (afterLineEnd rest) rest
      else if q.lines && c == '\r' && rest.head? == some '\n' then body? q .lineEnd rest
      else
        match escaped? c with
        | some char => add char (body? q .text rest)
        | none => none
  | .code missing value, c :: rest =>
      match Text.hexValue? c with
      | none => none
      | some digit =>
          if 1 < missing then body? q (.code (missing - 1) (value * 16 + digit)) rest
          else
            match character? (value * 16 + digit) with
            | some char => add char (body? q .text rest)
            | none => none
  | .lineEnd, c :: rest =>
      if isBlank c then body? q .lineEnd rest
      else if c == '\n' then body? q (afterLineEnd rest) rest
      else if c == '\r' && rest.head? == some '\n' then body? q .lineEnd rest
      else none
  | .gap, _ :: rest => body? q (afterLineEnd rest) rest

/-- A line end right after the opening marks is not part of the text. -/
def triple? (q : Quoting) (cs : Chars) : Option (Chars × Chars) :=
  body? q .text ((newline? cs).getD cs)

/-- A string within a line. -/
def shortText? : Chars → Option (Chars × Chars)
  | '"' :: rest => body? ⟨'"', true, false⟩ .text rest
  | '\'' :: rest => body? ⟨'\'', false, false⟩ .text rest
  | _ => none

def quotedText? : Chars → Option (Chars × Chars)
  | '"' :: '"' :: '"' :: rest => triple? ⟨'"', true, true⟩ rest
  | '\'' :: '\'' :: '\'' :: rest => triple? ⟨'\'', false, true⟩ rest
  | cs => shortText? cs

end Connector.Toml
