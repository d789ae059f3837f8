/-!
# Sets of characters by code point

A standard gives a class of characters as inclusive ranges of code points; membership is a search
through them.
-/

namespace QueryClient.Text

/-- Inclusive ranges of code points. -/
abbrev Ranges := List (Nat × Nat)

/-- A character lies in one of the ranges. -/
def Ranges.contains (ranges : Ranges) (c : Char) : Bool :=
  ranges.any fun (first, last) => first ≤ c.toNat && c.toNat ≤ last

end QueryClient.Text
