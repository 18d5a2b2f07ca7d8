/-
**Catalogs: flows under their ids.**

A catalog compiles charts with its settings and keeps the flows. Compiling a chart under the id of
a flow that is there replaces it and keeps its title, description and metadata, unless the old flow
is empty.

* `Catalog.register`, `Catalog.remove`, `Catalog.compileSource`: changes.
* `Catalog.resolveLink?`: the flow that a link node leads to.
-/

import ChartGuide.Compilation

namespace ChartGuide

/-- Flows under their ids, in the order of first registration. -/
structure Catalog where
  settings : Settings := .usual
  flows : Table Value Flow := ∅

namespace Catalog

def ids (catalog : Catalog) : List Value := catalog.flows.keys

def flow? (catalog : Catalog) (id : Value) : Option Flow := catalog.flows.get? id

def contains (catalog : Catalog) (id : Value) : Bool := catalog.flows.contains id

def size (catalog : Catalog) : Nat := catalog.flows.size

/-- Adds a flow under its own id, or replaces the one there. -/
def register (catalog : Catalog) (flow : Flow) : Catalog :=
  { catalog with flows := catalog.flows.insert flow.id flow }

/-- Drops the flow under an id, and hands it over if there was one. -/
def remove (catalog : Catalog) (id : Value) : Option Flow × Catalog :=
  (catalog.flow? id, { catalog with flows := catalog.flows.erase id })

/-- What a compilation under an id keeps: the given title and description, or those of the flow
there, and its metadata. An empty flow is not kept from. -/
def priorOf (catalog : Catalog) (id title description : Value) : Prior :=
  match (catalog.flow? id).filter fun flow => !flow.nodes.isEmpty with
  | some old =>
    ⟨id, title.orElse old.title, description.orElse old.description, .carried old.metadata⟩
  | none => ⟨id, title.orElse .null, description.orElse .null, .absent⟩

/-- The flow that a chart compiles to under an id. -/
def compiled (catalog : Catalog) (id : Value) (source : String) (title description : Value)
    (now : String) : Flow :=
  catalog.settings.compile source (catalog.priorOf id title description) now

/-- The catalog after a chart was compiled under an id. -/
def compileSource (catalog : Catalog) (id : Value) (source : String) (title description : Value)
    (now : String) : Catalog :=
  catalog.register (catalog.compiled id source title description now)

/-- What compiling a chart under an id reports. -/
def compileEvents (catalog : Catalog) (id : Value) (source : String) : List Event :=
  catalog.settings.compileEvents source ++
    [.compiledFlow id (Draft.ofSource source).nodes.size]

/-- The flow that a link node leads to, if the node is a link, has a target, and the target is in
the catalog. -/
def resolveLink? (catalog : Catalog) (flowId : Value) (nodeId : String) : Option Flow :=
  (catalog.flow? flowId).bind fun flow => (flow.node? nodeId).bind fun node =>
    if node.isLink && node.nextFlow != .null then catalog.flow? node.nextFlow else none

end Catalog

end ChartGuide
