import Connector.Toml.Number

/-! Dates and times in settings files in TOML. They are kept as text in one form.

- `Toml.moment?`: a date, a time or both as text, and what follows it. The form has `T` between date and
  time, `Z` for the zone of that name, and no zeros at the end of a second's fraction.
- `Toml.quotedMoment?`: the form of a date, a time or both that a whole string spells. -/

namespace Connector.Toml

def numberOf (digits : Chars) : Nat := Nat.ofDigitChars 10 digits 0

/-- A number of exactly two digits within bounds. -/
def pair? (low high : Nat) : Chars → Option (Chars × Chars)
  | a :: b :: rest =>
      let n := numberOf [a, b]
      if a.isDigit && b.isDigit && low ≤ n && n ≤ high then some ([a, b], rest) else none
  | _ => none

def drop? (mark : Char) : Chars → Option Chars
  | c :: rest => if c == mark then some rest else none
  | [] => none

def isLeap (year : Nat) : Bool := year % 4 = 0 && (year % 100 ≠ 0 || year % 400 = 0)

def daysOf (year month : Nat) : Nat :=
  if month = 2 then if isLeap year then 29 else 28
  else if month ∈ [4, 6, 9, 11] then 30
  else 31

def date? : Chars → Option (Chars × Chars)
  | a :: b :: c :: d :: rest => do
      let year := [a, b, c, d]
      if !year.all Char.isDigit then none
      let (month, rest) ← pair? 1 12 (← drop? '-' rest)
      let (day, rest) ← pair? 1 31 (← drop? '-' rest)
      if daysOf (numberOf year) (numberOf month) < numberOf day then none
      return (year ++ '-' :: month ++ '-' :: day, rest)
  | _ => none

/-- Nine digits of a second's fraction count. -/
def secondFraction (digits : Chars) : Chars :=
  match ((digits.take 9).reverse.dropWhile (· == '0')).reverse with
  | [] => []
  | kept => '.' :: kept

def time? (cs : Chars) : Option (Chars × Chars) := do
  let (hour, rest) ← pair? 0 23 cs
  let (minute, rest) ← pair? 0 59 (← drop? ':' rest)
  let (second, rest) ← pair? 0 60 (← drop? ':' rest)
  let clock := hour ++ ':' :: minute ++ ':' :: second
  match rest with
  | '.' :: rest =>
      let digits := rest.takeWhile Char.isDigit
      if digits.isEmpty then none
      return (clock ++ secondFraction digits, rest.drop digits.length)
  | rest => return (clock, rest)

/-- The zero zone has a plus, unless it goes by its name. -/
def zone? : Chars → Option (Chars × Chars)
  | 'Z' :: rest | 'z' :: rest => some (['Z'], rest)
  | c :: rest =>
      if c == '+' || c == '-' then do
        let (hour, rest) ← pair? 0 23 rest
        let (minute, rest) ← pair? 0 59 (← drop? ':' rest)
        let shown := if hour ++ minute = ['0', '0', '0', '0'] then '+' else c
        return (shown :: hour ++ ':' :: minute, rest)
      else some ([], c :: rest)
  | [] => some ([], [])

/-- What may follow a date: a time, with or without a zone. -/
def timeOfDate? : Chars → Option (Chars × Chars)
  | c :: rest =>
      if c == 'T' || c == 't' then zoned? rest
      else if c == ' ' then
        match time? rest with
        | some _ => zoned? rest
        | none => some ([], c :: rest)
      else some ([], c :: rest)
  | [] => some ([], [])
where
  zoned? (cs : Chars) : Option (Chars × Chars) := do
    let (time, rest) ← time? cs
    let (zone, rest) ← zone? rest
    return ('T' :: time ++ zone, rest)

def moment? (cs : Chars) : Option (String × Chars) :=
  match date? cs with
  | some (date, rest) =>
      (timeOfDate? rest).map fun (time, rest) => (String.ofList (date ++ time), rest)
  | none => (time? cs).map fun (time, rest) => (String.ofList time, rest)

def quotedMoment? (text : String) : Option String :=
  match moment? text.toList with
  | some (moment, []) => some moment
  | _ => none

end Connector.Toml
