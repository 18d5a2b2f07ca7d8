/-
**What a compilation can be told.**

An id that begins with the link mark makes its node a link to another flow, and the link table says
to which; an entry of the table may also name no flow. The link mark is never empty, since every id
begins with the empty text; `Settings.make` refuses it. The id, title and description are used where
no earlier flow supplies them.
-/

import ChartGuide.Table
import ChartGuide.Value

namespace ChartGuide

/-- The link table of the built-in topics. -/
def builtInLinks : Table String (Option String) :=
  .ofList [("GO_CORE", some "coreSystem"), ("GO_FIRMWARE", some "firmwareRuntime"),
    ("GO_INPUT", some "inputTroubleshoot"), ("GO_OUTPUT", some "outputTroubleshoot"),
    ("GO_ELECTRICAL", some "electricalPower"), ("GO_CONNECTIVITY", some "connectivity")]

/-- How charts are compiled. -/
structure Settings where
  linkMark : String := "GO_"
  linkMark_nonempty : linkMark ≠ "" := by decide
  linkTargets : Table String (Option String) := builtInLinks
  flowId : Value := .text "mermaid-flow"
  title : Value := .text "Imported Flow"
  description : Value := .text "Generated from Mermaid source"

/-- Why settings are refused. -/
inductive SettingsFault where
  | emptyLinkMark
  deriving DecidableEq, Repr

def SettingsFault.message : SettingsFault → String
  | emptyLinkMark => "link_prefix must be a non-empty string"

namespace Settings

def usual : Settings := {}

instance : Inhabited Settings := ⟨usual⟩

/-- Settings with the given link mark, which must not be empty. -/
def make (linkMark : String) (linkTargets : Table String (Option String))
    (flowId title description : Value) : Except SettingsFault Settings :=
  if nonempty : linkMark ≠ "" then
    .ok ⟨linkMark, nonempty, linkTargets, flowId, title, description⟩
  else .error .emptyLinkMark

/-- Whether the id of a node makes it a link. -/
def isLinkId (settings : Settings) (id : String) : Bool :=
  settings.linkMark.toList.isPrefixOf id.toList

/-- The flow that the link table names for an id, if it names one. -/
def linkTarget? (settings : Settings) (id : String) : Option String :=
  (settings.linkTargets.get? id).join

end Settings

end ChartGuide
