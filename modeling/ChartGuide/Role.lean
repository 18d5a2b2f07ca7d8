/-
**The part a node plays in a guide.**

A session ends at a terminal node and may leave the flow at a link node; the other roles tell a
renderer how to show the node. `Role.ofName?` reads back what `Role.name` writes
(`Role.ofName?_name`).
-/

namespace ChartGuide

/-- The part a node plays. -/
inductive Role where
  | question
  | diagnosis
  | action
  | decision
  | terminal
  | link
  deriving DecidableEq, Repr, Inhabited

namespace Role

/-- The name a role is exported under. -/
def name : Role → String
  | question => "question"
  | diagnosis => "diagnosis"
  | action => "action"
  | decision => "decision"
  | terminal => "terminal"
  | link => "link"

def all : List Role := [question, diagnosis, action, decision, terminal, link]

def ofName? (text : String) : Option Role := all.find? fun role => role.name == text

theorem ofName?_name (role : Role) : ofName? role.name = some role := by
  cases role <;> rfl

end Role

end ChartGuide
