/-
**What is worth reporting while charts are compiled and sessions started.**

Operations return their events in the order in which they happen; whoever runs them may log them.
Only a link that leads nowhere is a warning.
-/

import ChartGuide.Line
import ChartGuide.Value

namespace ChartGuide

/-- Something that happened. -/
inductive Event where
  | skippedLine (number : Nat) (fault : LineFault) (text : String)
  | scanned (nodes choices skipped : Nat)
  | inertLink (id : String)
  | compiledFlow (id : Value) (nodes : Nat)
  | startedSession (ticket : String) (flowId : Value)
  deriving DecidableEq, Repr

namespace Event

/-- Whether someone should look into it. -/
def isWarning : Event → Bool
  | inertLink _ => true
  | _ => false

def message : Event → String
  | skippedLine number fault text =>
    "Skipping line " ++ toString number ++ " (" ++ fault.message ++ "): " ++ text
  | scanned nodes choices skipped =>
    "Scanned " ++ toString nodes ++ " nodes and " ++ toString choices ++ " options, " ++
      toString skipped ++ " lines skipped"
  | inertLink id => "Link node " ++ Text.quoted id ++ " has no target flow in the link table"
  | compiledFlow id nodes =>
    "Compiled flow " ++ id.quotedForm ++ " with " ++ toString nodes ++ " nodes"
  | startedSession ticket flowId =>
    "Started session " ++ ticket ++ " on flow " ++ flowId.quotedForm

end Event

end ChartGuide
