/-
**Counting how often things occur.**

A tally lists each thing with its number of occurrences, in the order of first occurrence.
-/

import ChartGuide.Table

namespace ChartGuide

/-- How often each item occurs. -/
def tally {κ : Type} [DecidableEq κ] (items : List κ) : Table κ Nat :=
  items.foldl (fun counts item => counts.upsert item fun count => count.getD 0 + 1) ∅

end ChartGuide
