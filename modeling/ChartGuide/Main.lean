/-
**The program: prints the tour.**
-/

import ChartGuide.Tour

/-- Prints every chapter of the tour. No chapter shows a time or a ticket, so any will do. -/
def main : IO Unit := do
  for chapter in ChartGuide.Tour.chapters "" "first" "second" do
    IO.print chapter.text
