/-! Sets of characters given by the first and last code of each of their blocks, in rising order.

- `Ranges.contains`: membership in the solid blocks.
- `Ranges.alternates`: membership in blocks that take every second code only. -/

namespace Connector.Ranges

def contains : List Nat → Nat → Bool
  | low :: high :: rest, n => if n < low then false else if n ≤ high then true else contains rest n
  | _, _ => false

/-- Alphabets that pair capital and small letters put the capitals at every second code. -/
def alternates : List Nat → Nat → Bool
  | low :: high :: rest, n =>
      if n < low then false else if n ≤ high then (n - low) % 2 == 0 else alternates rest n
  | _, _ => false

end Connector.Ranges
