/-
**A tour of the library in three chapters.**

The chapters compile the built-in topics, walk a session across a link, and look into a sloppy
chart. Each chapter is the text it prints and the events it reports.
-/

import ChartGuide.Finding
import ChartGuide.Layout
import ChartGuide.Session
import ChartGuide.Topic

namespace ChartGuide

namespace Tour

/-- A chapter: its printed lines and its events. -/
structure Chapter where
  lines : List String
  events : List Event

def Chapter.text (chapter : Chapter) : String := String.join (chapter.lines.map (· ++ "\n"))

def header (title : String) : List String :=
  ["\n" ++ Trace.rule '=' 70, "  " ++ title, Trace.rule '=' 70 ++ "\n"]

/-- The built-in topics with their sizes. -/
def topics (now : String) : Chapter where
  lines := header "Demo 1: Built-in Topics" ++
    (Catalog.builtIn .usual now).flows.entries.map fun (id, flow) =>
      Text.alignLeft 20 id.plain ++ " " ++ Text.alignRight 3 (toString flow.size) ++
        " nodes  start=" ++ (Value.ofText? flow.start).plain
  events := Catalog.builtInEvents .usual

def walkLabels : List String := ["Which IDE", "Arduino IDE", "Yes", "Yes", "Success"]

/-- One step of the walk: the line it prints and the session after it. -/
def walkStep (catalog : Catalog) (label : String) (state : Session.State) :
    Except Session.Fault (String × Session.State) :=
  let (outcome, after) := state.choose catalog (.text label)
  outcome.map fun node =>
    ("  chose " ++ Text.alignLeft 16 (Text.quoted label) ++ " -> " ++ node.id ++ " [" ++
      node.role.name ++ "] " ++ node.text, after)

/-- The steps of the walk, one for each label. -/
def walkSteps (catalog : Catalog) :
    List String → Session.State → Except Session.Fault (List String × Session.State)
  | [], state => .ok ([], state)
  | label :: labels, state => do
    let (line, next) ← walkStep catalog label state
    let (lines, last) ← walkSteps catalog labels next
    return (line :: lines, last)

/-- The walk through one topic and across a link into another: the lines and the two sessions. -/
def walk (catalog : Catalog) (first second : String) :
    Except Session.Fault (List String × List Session.State) := do
  let begun ← Session.begin catalog first (.text "coreSystem")
  let (lines, last) ← walkSteps catalog walkLabels begun
  let next ← last.followLink catalog second
  let node ← next.currentNode catalog
  return (lines ++ ["\nFollowed link into " ++ next.flowId.plain ++ ", now at " ++ node.text],
    [begun, next])

/-- A session across a link, with the tickets of its two parts. -/
def session (now first second : String) : Chapter :=
  let walked := walk (Catalog.builtIn .usual now) first second
  let (lines, states) := match walked with
    | .ok found => found
    | .error fault => ([fault.message], [])
  { lines := header "Demo 2: Wizard Session" ++ lines
    events := Catalog.builtInEvents .usual ++
      states.map fun state => .startedSession state.ticket state.flowId }

/-- A chart written without care. -/
def sloppyChart : String := "
    flowchart TD
    S([Start]) --> A\x7bDoes it boot?\x7d
    A -->|Yes| B([Done])
    A -->|No| C[Check power]
    C --> GO_NOWHERE
    this line is not a flowchart
    "

/-- The trace, the findings and the layers of a sloppy chart. -/
def sloppy (now : String) : Chapter :=
  let settings := Settings.usual
  let flow := settings.compile sloppyChart .absent now
  let trace := settings.compileTrace sloppyChart .absent now
  let findings := flow.findings none ++ trace.findings
  { lines := header "Demo 3: Debug Trace" ++ [trace.dump, "\nIssues:"] ++
      findings.map (fun finding => "  [" ++ finding.code ++ "] " ++ finding.message) ++
      ["\nLayers:"] ++
      (flow.layers Flow.usualPasses).zipIdx.map fun (layer, index) =>
        "  " ++ toString index ++ ": " ++ ", ".intercalate layer
    events := settings.compileEvents sloppyChart ++ settings.compileEvents sloppyChart }

def chapters (now first second : String) : List Chapter :=
  [topics now, session now first second, sloppy now]

end Tour

end ChartGuide
