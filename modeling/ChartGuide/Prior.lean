/-
**What a new compilation keeps of an earlier flow.**

A flow that is compiled again keeps its id, title, description and metadata. The earlier flow is
given as a flow or as data, for instance an exported flow; in data each field is looked up under
two names, and a blank value counts as missing.

* `Prior.ofFlow`, `Prior.ofValue`: where the identity comes from.
* `PriorMetadata.renew`: the metadata of the new flow.
-/

import ChartGuide.Flow.Basic

namespace ChartGuide

/-- Metadata of an earlier flow: none, all of a flow's, or fields of plain data. -/
inductive PriorMetadata where
  | absent
  | carried (metadata : Metadata)
  | fields (entries : Table String Value)
  deriving Inhabited

/-- The identity of an earlier flow. Blank values are filled in by the settings. -/
structure Prior where
  id : Value := .null
  title : Value := .null
  description : Value := .null
  metadata : PriorMetadata := .absent
  deriving Inhabited

namespace PriorMetadata

/-- Metadata given as data: only a dictionary has fields. -/
def ofValue : Value → PriorMetadata
  | .dict entries => fields (.ofList entries)
  | _ => absent

/-- The value of a field under the first of two names where it is not blank. -/
def either (entries : Table String Value) (name exportedName : String) : Value :=
  ((entries.get? name).getD .null).orElse ((entries.get? exportedName).getD .null)

/-- The metadata of a new flow. Everything known is kept, and the time `now` is noted only where no
time was known. -/
def renew (now : String) : PriorMetadata → Metadata
  | absent => { lastUpdated := .text now }
  | carried metadata => { metadata with lastUpdated := metadata.lastUpdated.orElse (.text now) }
  | fields entries =>
    { createdBy := (either entries "created_by" "createdBy").orElse (.text "System")
      version := (either entries "version" "version").orElse (.text "1.0.0")
      lastUpdated := (either entries "last_updated" "lastUpdated").orElse (.text now)
      extra := ["created_by", "createdBy", "version", "last_updated", "lastUpdated"].foldl
        Table.erase entries }

end PriorMetadata

namespace Prior

def absent : Prior := {}

def ofFlow (flow : Flow) : Prior :=
  ⟨flow.id, flow.title, flow.description, .carried flow.metadata⟩

/-- The identity that plain data describes: each field under its own name or the exported one. -/
def ofValue (value : Value) : Prior where
  id := (value.field "flow_id").orElse (value.field "flowId")
  title := value.field "title"
  description := value.field "description"
  metadata := .ofValue (value.field "metadata")

end Prior

end ChartGuide
