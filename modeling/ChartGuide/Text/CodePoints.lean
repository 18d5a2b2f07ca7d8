/-
**Sets of characters as tables of intervals.**

A character class is written as a list of intervals of code points, both ends included. `within`
says whether a character lies in one of them.
-/

namespace ChartGuide.Text

/-- Whether the code point of `c` lies in one of the intervals, both ends included. -/
def within (intervals : List (Nat × Nat)) (c : Char) : Bool :=
  intervals.any fun (low, high) => low ≤ c.toNat && c.toNat ≤ high

end ChartGuide.Text
