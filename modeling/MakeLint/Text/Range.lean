/-!
# Closed ranges of code points

A character property is a list of closed ranges, ascending and apart. `inSome` looks a character up.
-/

namespace MakeLint.Text

/-- The code points from `first` to `last`, both included. -/
structure Range where
  first : Nat
  last : Nat

/-- Whether a character lies in a range. -/
def Range.holds (r : Range) (c : Char) : Bool := r.first ≤ c.toNat && c.toNat ≤ r.last

/-- Whether a character lies in one of the ranges. -/
def inSome (ranges : List Range) (c : Char) : Bool := ranges.any (·.holds c)

end MakeLint.Text
