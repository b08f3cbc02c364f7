/-!
# Sets of characters given by ranges

The properties that Unicode assigns to characters are large sets in few pieces, so they are written
as lists of ranges.  `CharRanges.contains` looks a character up.
-/

set_option autoImplicit false
namespace ContentBlocker.Text

/-- Ranges of code points, both ends included. -/
abbrev CharRanges := List (Nat × Nat)

/-- Whether a character lies in one of the ranges. -/
def CharRanges.contains (ranges : CharRanges) (c : Char) : Bool :=
  ranges.any fun (first, last) => first ≤ c.toNat && c.toNat ≤ last

end ContentBlocker.Text
