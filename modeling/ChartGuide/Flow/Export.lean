/-
**Flows as plain data.**

A flow is exported as nested dictionaries, from which a later compilation can take over the
identity of the flow. Tags, a condition, attributes and suggestions are only written where there
are any.

* `Metadata.toValue`: the noted extras come first, and the three known fields overwrite them.
* `Flow.toValue`: the whole flow, with its nodes under their keys.
-/

import ChartGuide.Flow.Basic

namespace ChartGuide

def Choice.toValue (choice : Choice) : Value :=
  .dict <| [("label", .ofText? choice.label), ("next", .text choice.target)] ++
    (if choice.tags.isEmpty then [] else [("tags", .list (choice.tags.map .text))]) ++
    choice.condition.toList.map fun condition => ("condition", .text condition)

def Node.toValue (node : Node) : Value :=
  .dict <| [("id", .text node.id), ("type", .text node.role.name), ("text", .text node.text),
      ("options", .list (node.choices.map Choice.toValue))] ++
    (if node.attributes.isEmpty then [] else [("meta", .dict node.attributes.entries)]) ++
    if node.suggestions.isEmpty then [] else [("suggestions", .list (node.suggestions.map .text))]

/-- Metadata as a table of fields. -/
def Metadata.fields (metadata : Metadata) : Table String Value :=
  ((metadata.extra.insert "createdBy" metadata.createdBy).insert "version" metadata.version).insert
    "lastUpdated" metadata.lastUpdated

def Metadata.toValue (metadata : Metadata) : Value := .dict metadata.fields.entries

def Flow.toValue (flow : Flow) : Value :=
  .dict [("flowId", flow.id), ("title", flow.title), ("description", flow.description),
    ("startNodeId", .ofText? flow.start),
    ("nodes", .dict (flow.nodes.mapValues fun _ node => node.toValue).entries),
    ("mermaidSource", .text flow.source), ("metadata", flow.metadata.toValue)]

end ChartGuide
