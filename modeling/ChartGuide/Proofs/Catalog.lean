/-
**Catalogs over time: what a flow keeps when its chart is compiled again.**

A catalog starts empty and is edited: charts are compiled, flows are put in as they are, and flows
are removed. Whatever the edits were, every flow stands under its own id. A flow that compiling
gave has no blank that the settings would fill in, so its identity goes through another compilation
unchanged, if it is handed on at all.

* `Catalog.filed_after`: every flow stands under its own id, after any edits.
* `Catalog.produced_after`: compiling and removing alone leaves only flows that compiling gave.
* `Catalog.identity_compileSource`: compiling again under an id keeps the title, the description and
  the metadata of the flow there exactly if that flow has nodes, or had nothing of its own to lose.
* `Catalog.emptied_loses_identity`: a flow that had no nodes for a moment has lost them.
* `Catalog.Files`: what becomes of a catalog when a flow is filed under an id.
* `Catalog.files_compileSource`: compiling files one flow and leaves the others alone. The id is the
  given one unless that is empty.
-/

import ChartGuide.Catalog

namespace ChartGuide

/-! ### Blanks -/

theorem Value.orElse_of_isBlank_eq_false {value : Value} (present : value.isBlank = false)
    (other : Value) : value.orElse other = value := by
  rw [orElse, present]
  rfl

/-- What a blank is filled in with is there afterwards. -/
theorem Value.isBlank_orElse (first : Value) {second : Value} (present : second.isBlank = false) :
    (first.orElse second).isBlank = false := by
  rw [orElse]
  split
  · exact present
  · next kept => exact Bool.eq_false_iff.mpr kept

/-- A blank that was filled in needs no second filling. -/
theorem Value.orElse_orElse (first second : Value) :
    (first.orElse second).orElse second = first.orElse second := by
  by_cases blank : first.isBlank = true
  · have filled : first.orElse second = second := if_pos blank
    rw [filled, orElse, ite_self]
  · exact orElse_of_isBlank_eq_false (by rw [orElse, if_neg blank]; simpa using blank) second

namespace PriorMetadata

/-- Metadata that was renewed tells a time. -/
theorem isBlank_lastUpdated_renew {now : String} (told : now ≠ "") (prior : PriorMetadata) :
    (prior.renew now).lastUpdated.isBlank = false := by
  have time : (Value.text now).isBlank = false := by simpa [Value.isBlank] using told
  cases prior with
  | absent => exact time
  | carried metadata => exact metadata.lastUpdated.isBlank_orElse time
  | fields entries => exact (either entries "last_updated" "lastUpdated").isBlank_orElse time

/-- Metadata that tells a time is carried on as it is. -/
theorem renew_carried {metadata : Metadata} (dated : metadata.lastUpdated.isBlank = false)
    (now : String) : (carried metadata).renew now = metadata := by
  rw [renew, Value.orElse_of_isBlank_eq_false dated]

end PriorMetadata

/-! ### What compiling gives -/

/-- What is kept of a flow when its chart is compiled again. -/
@[ext]
structure Identity where
  title : Value
  description : Value
  metadata : Metadata
  deriving DecidableEq, Repr

def Flow.identity (flow : Flow) : Identity := ⟨flow.title, flow.description, flow.metadata⟩

namespace Settings

variable {settings : Settings} {flow : Flow}

/-- The identity of a flow that no earlier flow is known of. -/
def identity (settings : Settings) (now : String) : Identity :=
  ⟨settings.title, settings.description, { lastUpdated := .text now }⟩

/-- Whether compiling some chart gave a flow, at a time that a clock can tell: not the empty text. -/
def Produces (settings : Settings) (flow : Flow) : Prop :=
  ∃ source prior now, now ≠ "" ∧ flow = settings.compile source prior now

theorem Produces.id_orElse (produced : settings.Produces flow) :
    flow.id.orElse settings.flowId = flow.id := by
  obtain ⟨source, prior, now, _, rfl⟩ := produced
  exact prior.id.orElse_orElse settings.flowId

/-- The identity of a produced flow, handed on to a compilation, comes out as it went in. -/
theorem Produces.identity_compile (produced : settings.Produces flow) (id : Value)
    (source now : String) :
    (settings.compile source ⟨id, flow.title, flow.description, .carried flow.metadata⟩
      now).identity = flow.identity := by
  obtain ⟨source, prior, before, told, rfl⟩ := produced
  have title := prior.title.orElse_orElse settings.title
  have description := prior.description.orElse_orElse settings.description
  have metadata := PriorMetadata.renew_carried
    (PriorMetadata.isBlank_lastUpdated_renew told prior.metadata) now
  exact Identity.ext title description metadata

end Settings

namespace Catalog

/-! ### Edits -/

theorem flow?_register (catalog : Catalog) (flow : Flow) (id : Value) :
    (catalog.register flow).flow? id = if id = flow.id then some flow else catalog.flow? id :=
  catalog.flows.get?_upsert flow.id _ id

theorem flow?_remove (catalog : Catalog) (gone id : Value) :
    (catalog.remove gone).2.flow? id = if id = gone then none else catalog.flow? id :=
  catalog.flows.get?_erase gone id

/-- A change of a catalog. A blank title or description is that of the flow under the id. -/
inductive Edit where
  | compile (id : Value) (source : String) (title description : Value) (now : String)
  | register (flow : Flow)
  | remove (id : Value)

/-- Whether an edit compiles a chart, at a time that a clock can tell, or removes a flow. -/
def Edit.isCompilingOrRemoving : Edit → Bool
  | compile _ _ _ _ now => now ≠ ""
  | register _ => false
  | remove _ => true

def edit (catalog : Catalog) : Edit → Catalog
  | .compile id source title description now => catalog.compileSource id source title description now
  | .register flow => catalog.register flow
  | .remove id => (catalog.remove id).2

/-- The catalog that edits make of an empty one. -/
def after (settings : Settings) (edits : List Edit) : Catalog :=
  edits.foldl edit { settings := settings }

theorem settings_edit (catalog : Catalog) (change : Edit) :
    (catalog.edit change).settings = catalog.settings := by
  cases change <;> rfl

/-- The settings are those that the catalog started with. -/
theorem settings_after (settings : Settings) (edits : List Edit) :
    (after settings edits).settings = settings :=
  List.foldlRecOn edits edit (motive := fun catalog => catalog.settings = settings) rfl
    fun catalog same change _ => (catalog.settings_edit change).trans same

/-- A flow that is there after an edit was there before, or the edit put it under its own id: as it
is, or as what a chart compiles to. -/
theorem flow?_edit_cases {catalog : Catalog} {change : Edit} {id : Value} {flow : Flow}
    (found : (catalog.edit change).flow? id = some flow) :
    catalog.flow? id = some flow ∨ flow.id = id ∧
      (change = .register flow ∨ ∃ target source title description now,
        change = .compile target source title description now ∧
          flow = catalog.compiled target source title description now) := by
  cases change with
  | compile target source title description now =>
    rw [edit, compileSource, flow?_register] at found
    split at found
    · next here =>
      obtain rfl := Option.some.inj found
      exact .inr ⟨here.symm, .inr ⟨target, source, title, description, now, rfl, rfl⟩⟩
    · exact .inl found
  | register added =>
    rw [edit, flow?_register] at found
    split at found
    · next here =>
      obtain rfl := Option.some.inj found
      exact .inr ⟨here.symm, .inl rfl⟩
    · exact .inl found
  | remove gone =>
    rw [edit, flow?_remove] at found
    split at found
    · cases found
    · exact .inl found

/-- Whether every flow stands under its own id. -/
def Filed (catalog : Catalog) : Prop :=
  ∀ id flow, catalog.flow? id = some flow → flow.id = id

theorem Filed.edit {catalog : Catalog} (filed : catalog.Filed) (change : Edit) :
    (catalog.edit change).Filed := by
  intro id flow found
  obtain before | ⟨ownId, -⟩ := flow?_edit_cases found
  · exact filed id flow before
  · exact ownId

/-- **Every flow stands under its own id**, after any edits. -/
theorem filed_after (settings : Settings) (edits : List Edit) : (after settings edits).Filed := by
  have empty : ({ settings := settings } : Catalog).Filed := fun _ _ found => nomatch found
  exact List.foldlRecOn edits edit empty fun _ filed change _ => filed.edit change

/-- Whether every flow came from compiling with the settings of the catalog. -/
def Produced (catalog : Catalog) : Prop :=
  ∀ id flow, catalog.flow? id = some flow → catalog.settings.Produces flow

theorem Produced.edit {catalog : Catalog} (produced : catalog.Produced) {change : Edit}
    (compiling : change.isCompilingOrRemoving = true) : (catalog.edit change).Produced := by
  intro id flow found
  rw [settings_edit]
  obtain before | ⟨-, rfl | ⟨target, source, title, description, now, rfl, rfl⟩⟩ :=
    flow?_edit_cases found
  · exact produced id flow before
  · exact absurd compiling Bool.false_ne_true
  · have told : now ≠ "" := by simpa [Edit.isCompilingOrRemoving] using compiling
    exact ⟨source, _, now, told, rfl⟩

/-- **Compiling and removing alone leaves only flows that compiling gave.** -/
theorem produced_after (settings : Settings) {edits : List Edit}
    (compiling : ∀ change ∈ edits, change.isCompilingOrRemoving = true) :
    (after settings edits).Produced := by
  have empty : ({ settings := settings } : Catalog).Produced := fun _ _ found => nomatch found
  exact List.foldlRecOn edits edit empty fun _ produced change member =>
    produced.edit (compiling change member)

/-- Whether every flow came from compiling, with whatever settings. -/
def Compiled (catalog : Catalog) : Prop :=
  ∀ id flow, catalog.flow? id = some flow → ∃ settings : Settings, settings.Produces flow

theorem Produced.compiled {catalog : Catalog} (produced : catalog.Produced) : catalog.Compiled :=
  fun id flow found => ⟨catalog.settings, produced id flow found⟩

/-! ### Compiling again -/

theorem id_priorOf (catalog : Catalog) (id title description : Value) :
    (catalog.priorOf id title description).id = id := by
  unfold priorOf
  split <;> rfl

/-- A flow that is compiled under an id has this id, and that of the settings if it is blank. -/
theorem id_compiled (catalog : Catalog) (id : Value) (source : String) (title description : Value)
    (now : String) : (catalog.compiled id source title description now).id =
      id.orElse catalog.settings.flowId := by
  show (catalog.priorOf id title description).id.orElse catalog.settings.flowId = _
  rw [id_priorOf]

/-- Compiling under an id that is no blank puts a flow there, and nowhere else. -/
theorem flow?_compileSource (catalog : Catalog) {id : Value} (named : id.isBlank = false)
    (source : String) (title description : Value) (now : String) (other : Value) :
    (catalog.compileSource id source title description now).flow? other =
      if other = id then some (catalog.compiled id source title description now)
      else catalog.flow? other := by
  rw [compileSource, flow?_register, id_compiled, Value.orElse_of_isBlank_eq_false named]

/-- The flow that compiling again gives: the identity of the flow there is handed on, unless that
flow is empty. -/
theorem identity_compiled {catalog : Catalog} {id : Value} {old : Flow}
    (found : catalog.flow? id = some old) (produced : catalog.settings.Produces old)
    (source now : String) :
    (catalog.compiled id source .null .null now).identity =
      if old.nodes.isEmpty then catalog.settings.identity now else old.identity := by
  rw [compiled, priorOf, found]
  by_cases empty : old.nodes.isEmpty = true
  · rw [if_pos empty, Option.filter_some_neg (by simpa using empty)]
    rfl
  · rw [if_neg empty, Option.filter_some_pos (by simpa using empty)]
    exact produced.identity_compile id source now

/-- **Compiling a chart again keeps the identity of the flow under its id exactly if that flow has
nodes**, or has the identity of a flow that is new. It is an empty flow that is taken for none: its
title and description are replaced by those of the settings, and its metadata by new ones. Nothing
depends on the edits before, on the chart of the flow there, or on the new chart. -/
theorem identity_compileSource (settings : Settings) (edits : List Edit) {id : Value} {old : Flow}
    (found : (after settings edits).flow? id = some old) (produced : settings.Produces old)
    (source now : String) :
    ∃ new, ((after settings edits).compileSource id source .null .null now).flow? id = some new ∧
      new.source = source ∧
      new.identity = (if old.nodes.isEmpty then settings.identity now else old.identity) ∧
      (new.identity = old.identity ↔
        old.nodes.isEmpty = false ∨ old.identity = settings.identity now) := by
  have sameSettings := settings_after settings edits
  have identity := identity_compiled found (sameSettings.symm ▸ produced) source now
  rw [sameSettings] at identity
  have ownId : id = ((after settings edits).compiled id source .null .null now).id := by
    have filed : old.id = id := filed_after settings edits id old found
    have settled : old.id.orElse settings.flowId = old.id := produced.id_orElse
    have prior : ((after settings edits).priorOf id .null .null).id = id := by
      rw [priorOf]
      split <;> rfl
    show id = ((after settings edits).priorOf id .null .null).id.orElse
      (after settings edits).settings.flowId
    rw [prior, sameSettings, ← filed, settled]
  refine ⟨_, by rw [compileSource, flow?_register, if_pos ownId], rfl, identity, ?_⟩
  rw [identity]
  cases old.nodes.isEmpty <;> simp [eq_comm]

/-- A flow with a title of its own beside one that was removed. -/
def titled : List Edit :=
  [.compile (.text "demo") "A --> B" (.text "Demo") (.text "About") "2020-01-02T03:04:05+00:00",
    .compile (.text "other") "X" .null .null "2020-01-02T03:04:06+00:00",
    .remove (.text "other")]

theorem identity_compileSource_titled :
    ∃ old, (after .usual titled).flow? (.text "demo") = some old ∧ Settings.usual.Produces old ∧
      ∃ new, ((after .usual titled).compileSource (.text "demo") "" .null .null
          "2020-01-02T03:04:07+00:00").flow? (.text "demo") = some new ∧
        new.source = "" ∧
        new.identity = (if old.nodes.isEmpty then
          Settings.usual.identity "2020-01-02T03:04:07+00:00" else old.identity) ∧
        (new.identity = old.identity ↔ old.nodes.isEmpty = false ∨
          old.identity = Settings.usual.identity "2020-01-02T03:04:07+00:00") := by
  have there : ((after .usual titled).flow? (.text "demo")).isSome = true := by decide +kernel
  obtain ⟨old, found⟩ := Option.isSome_iff_exists.mp there
  have produced : Settings.usual.Produces old :=
    settings_after .usual titled ▸ produced_after .usual (by decide) _ _ found
  exact ⟨old, found, produced, identity_compileSource .usual titled found produced _ _⟩

/-- A flow with a title of its own whose chart was empty for a moment. -/
def emptied : List Edit :=
  [.compile (.text "demo") "A --> B" (.text "Demo") (.text "About") "2020-01-02T03:04:05+00:00",
    .compile (.text "demo") "" .null .null "2020-01-02T03:04:06+00:00"]

/-- **An empty flow loses its identity** to the next compilation, although compiling gave it. -/
theorem emptied_loses_identity :
    (∀ change ∈ emptied, change.isCompilingOrRemoving = true) ∧
      ∃ old new, (after .usual emptied).flow? (.text "demo") = some old ∧
        ((after .usual emptied).compileSource (.text "demo") "A --> B" .null .null
          "2020-01-02T03:04:07+00:00").flow? (.text "demo") = some new ∧
        old.identity =
          ⟨.text "Demo", .text "About", { lastUpdated := .text "2020-01-02T03:04:05+00:00" }⟩ ∧
        new.identity = ⟨.text "Imported Flow", .text "Generated from Mermaid source",
          { lastUpdated := .text "2020-01-02T03:04:07+00:00" }⟩ ∧
        new.identity ≠ old.identity := by
  have before : ((after .usual emptied).flow? (.text "demo")).map Flow.identity =
      some ⟨.text "Demo", .text "About", { lastUpdated := .text "2020-01-02T03:04:05+00:00" }⟩ := by
    decide +kernel
  have later : (((after .usual emptied).compileSource (.text "demo") "A --> B" .null .null
      "2020-01-02T03:04:07+00:00").flow? (.text "demo")).map Flow.identity =
      some ⟨.text "Imported Flow", .text "Generated from Mermaid source",
        { lastUpdated := .text "2020-01-02T03:04:07+00:00" }⟩ := by
    decide +kernel
  obtain ⟨old, found, known⟩ := Option.map_eq_some_iff.mp before
  obtain ⟨new, foundAgain, lost⟩ := Option.map_eq_some_iff.mp later
  refine ⟨by decide, old, new, found, foundAgain, known, lost, ?_⟩
  rw [known, lost]
  decide

/-! ### Where a compiled flow is filed -/

/-- Whether a catalog has become another one by filing a flow under an id: the flow stands there and
has this id, the flows under other ids are the same, and so is the order of the ids, where a new one
comes last. -/
structure Files (before : Catalog) (id : Value) (flow : Flow) (later : Catalog) : Prop where
  own : flow.id = id
  found : later.flow? id = some flow
  others : ∀ other, other ≠ id → later.flow? other = before.flow? other
  order : later.ids = if id ∈ before.ids then before.ids else before.ids ++ [id]

theorem files_register (catalog : Catalog) (flow : Flow) :
    catalog.Files flow.id flow (catalog.register flow) where
  own := rfl
  found := by rw [flow?_register, if_pos rfl]
  others other apart := by rw [flow?_register, if_neg apart]
  order := catalog.flows.keys_upsert flow.id _

/-- **Compiling a chart files one flow**, whatever is in the catalog, and leaves all others alone. It
does so under the given id exactly if that is not empty, or is the one that the settings would use
in its place: under an empty id the flow takes the id of the settings, and the place of a flow that
may stand there. -/
theorem files_compileSource (catalog : Catalog) (id source : String) (title description : Value)
    (now : String) :
    let flow := catalog.compiled (.text id) source title description now
    let later := catalog.compileSource (.text id) source title description now
    catalog.Files (if id = "" then catalog.settings.flowId else .text id) flow later ∧
      later.settings = catalog.settings ∧
      (catalog.Files (.text id) flow later ↔
        id ≠ "" ∨ catalog.settings.flowId = .text "") := by
  intro flow later
  have own : flow.id = if id = "" then catalog.settings.flowId else .text id := by
    rw [id_compiled, Value.orElse]
    simp [Value.isBlank]
  have filed : catalog.Files (if id = "" then catalog.settings.flowId else .text id) flow later :=
    own ▸ catalog.files_register flow
  refine ⟨filed, rfl, fun under => ?_, fun named => ?_⟩
  · by_cases empty : id = ""
    · right
      rw [← empty, ← under.own, own, if_pos empty]
    · exact .inl empty
  · have entry : (if id = "" then catalog.settings.flowId else .text id) = .text id := by
      split
      · next empty =>
        rw [empty]
        exact named.resolve_left fun apart => apart empty
      · rfl
    rwa [entry] at filed

/-- A catalog with one flow, under the id that the usual settings give. -/
def imported : Catalog :=
  .after .usual [.compile (.text "mermaid-flow") "A --> B" .null .null "2020-01-02T03:04:05+00:00"]

/-- **A flow without a name takes the place of another one.** Compiling under the empty id files no
flow there, and replaces the flow under the id of the settings. -/
theorem unnamed_replaces_other :
    let flow := imported.compiled (.text "") "X --> Y" .null .null "2020-01-02T03:04:06+00:00"
    let later := imported.compileSource (.text "") "X --> Y" .null .null "2020-01-02T03:04:06+00:00"
    imported.ids = [.text "mermaid-flow"] ∧ later.ids = [.text "mermaid-flow"] ∧
      flow.id = .text "mermaid-flow" ∧ later.flow? (.text "") = none ∧
      (imported.flow? (.text "mermaid-flow")).map Flow.source = some "A --> B" ∧
      (later.flow? (.text "mermaid-flow")).map Flow.source = some "X --> Y" ∧
      ¬ imported.Files (.text "") flow later := by
  intro flow later
  have nowhere : later.flow? (.text "") = none := by decide +kernel
  refine ⟨by decide +kernel, by decide +kernel, by decide +kernel, nowhere, by decide +kernel,
    by decide +kernel, fun filed => ?_⟩
  exact Option.some_ne_none _ (filed.found.symm.trans nowhere)

end Catalog

end ChartGuide
