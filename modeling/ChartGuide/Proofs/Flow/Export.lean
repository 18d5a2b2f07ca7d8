/-
**Flows that come back from their export.**

A compilation takes the identity of an earlier flow from the flow itself or from its export, and it
makes no difference which. Exported metadata is one flat dictionary, where a noted extra could stand
in for a known field, or a blank could be filled in anew. Neither can happen to a flow that compiling
gave: compiling fills every blank and drops the extras under the names of known fields, and so does
every later compilation.

* `Metadata.Exportable`: metadata without such blanks and extras. Every compilation gives such
  metadata (`Prior.Given.exportable_renew`), whatever data and flows came before it.
* `PriorMetadata.renew_ofValue_toValue`: such metadata is read back from its export.
* `Settings.compile_ofValue_toValue`: compiling after a flow and after its export is the same, and
  keeps what the flow says of itself.
-/

import ChartGuide.Flow.Export
import ChartGuide.Proofs.Catalog
import ChartGuide.Proofs.Table

namespace ChartGuide

/-! ### Metadata -/

/-- The names of the known fields of metadata, in data and in exports. -/
def Metadata.knownNames : List String :=
  ["created_by", "createdBy", "version", "last_updated", "lastUpdated"]

/-- Metadata without blanks, and without extras under the names of known fields. -/
structure Metadata.Exportable (metadata : Metadata) : Prop where
  createdBy : metadata.createdBy.isBlank = false
  version : metadata.version.isBlank = false
  lastUpdated : metadata.lastUpdated.isBlank = false
  extra : ∀ name ∈ metadata.extra.keys, name ∉ Metadata.knownNames

/-- The known fields of an export, in front of whatever extras there are. -/
theorem Metadata.get?_fields (metadata : Metadata) (name : String) :
    metadata.fields.get? name =
      if name = "lastUpdated" then some metadata.lastUpdated
      else if name = "version" then some metadata.version
      else if name = "createdBy" then some metadata.createdBy
      else metadata.extra.get? name := by
  simp only [fields, Table.insert, Table.get?_upsert]

namespace Metadata.Exportable

variable {metadata : Metadata}

/-- The export of metadata holds the extras first and then the known fields. -/
theorem entries_fields (exportable : metadata.Exportable) :
    metadata.fields.entries = metadata.extra.entries ++ [("createdBy", metadata.createdBy),
      ("version", metadata.version), ("lastUpdated", metadata.lastUpdated)] := by
  have distinct : (metadata.extra.keys ++ ["createdBy", "version", "lastUpdated"]).Nodup := by
    refine List.nodup_append.mpr ⟨metadata.extra.keys_nodup, by decide, ?_⟩
    rintro name there other known rfl
    refine exportable.extra name there ?_
    have some : ∀ name ∈ ["createdBy", "version", "lastUpdated"], name ∈ knownNames := by decide
    exact some name known
  exact Table.entries_foldl_insert metadata.extra [("createdBy", metadata.createdBy),
    ("version", metadata.version), ("lastUpdated", metadata.lastUpdated)] distinct

/-- No extra is taken for a known field. -/
theorem get?_extra (exportable : metadata.Exportable) {name : String}
    (known : name ∈ knownNames) : metadata.extra.get? name = none :=
  (metadata.extra.get?_eq_none_iff name).mpr fun there => exportable.extra name there known

/-- Without the known fields, the extras are left. -/
theorem foldl_erase_fields (exportable : metadata.Exportable) :
    knownNames.foldl Table.erase metadata.fields = metadata.extra := by
  apply Table.eq_of_entries_eq
  have extras : metadata.extra.entries.filter (fun entry => entry.1 ∉ knownNames) =
      metadata.extra.entries := by
    refine List.filter_eq_self.mpr fun entry member => decide_eq_true ?_
    exact exportable.extra entry.1 (List.mem_map_of_mem member)
  rw [Table.entries_foldl_erase, exportable.entries_fields, List.filter_append, extras]
  simp [knownNames]

end Metadata.Exportable

namespace PriorMetadata

/-- A field that is only there under its exported name. -/
theorem either_of_unused {entries : Table String Value} {name exportedName : String} {value : Value}
    (unused : entries.get? name = none) (found : entries.get? exportedName = some value) :
    either entries name exportedName = value := by
  rw [either, unused, found]
  rfl

/-- A field whose two names are the same. -/
theorem either_self {entries : Table String Value} {name : String} {value : Value}
    (found : entries.get? name = some value) : either entries name name = value := by
  rw [either, Value.orElse, ite_self, found]
  rfl

/-- **Metadata is read back from its export.** -/
theorem renew_ofValue_toValue {metadata : Metadata} (exportable : metadata.Exportable)
    (now : String) : (ofValue metadata.toValue).renew now = metadata := by
  have read : ofValue metadata.toValue = fields metadata.fields :=
    congrArg fields metadata.fields.ofList_entries
  have createdBy : either metadata.fields "created_by" "createdBy" = metadata.createdBy :=
    either_of_unused ((metadata.get?_fields _).trans (exportable.get?_extra (by decide)))
      (metadata.get?_fields _)
  have version : either metadata.fields "version" "version" = metadata.version :=
    either_self (metadata.get?_fields _)
  have lastUpdated : either metadata.fields "last_updated" "lastUpdated" = metadata.lastUpdated :=
    either_of_unused ((metadata.get?_fields _).trans (exportable.get?_extra (by decide)))
      (metadata.get?_fields _)
  have extra : ["created_by", "createdBy", "version", "last_updated", "lastUpdated"].foldl
      Table.erase metadata.fields = metadata.extra := exportable.foldl_erase_fields
  rw [read, renew, createdBy, version, lastUpdated, extra,
    Value.orElse_of_isBlank_eq_false exportable.createdBy,
    Value.orElse_of_isBlank_eq_false exportable.version,
    Value.orElse_of_isBlank_eq_false exportable.lastUpdated]

/-- New metadata is exportable if what it carries on is. -/
theorem exportable_renew {now : String} (told : now ≠ "") {prior : PriorMetadata}
    (carries : ∀ metadata, prior = carried metadata → metadata.Exportable) :
    (prior.renew now).Exportable := by
  have dated := isBlank_lastUpdated_renew told prior
  cases prior with
  | absent => exact ⟨rfl, rfl, dated, fun _ none => absurd none List.not_mem_nil⟩
  | carried metadata =>
    have before := carries metadata rfl
    exact ⟨before.createdBy, before.version, dated, before.extra⟩
  | fields entries =>
    refine ⟨Value.isBlank_orElse _ rfl, Value.isBlank_orElse _ rfl, dated, fun name there => ?_⟩
    obtain ⟨entry, kept, rfl⟩ := List.mem_map.mp there
    have left : (Metadata.knownNames.foldl Table.erase entries).entries = _ :=
      Table.entries_foldl_erase Metadata.knownNames entries
    rw [show ((fields entries).renew now).extra =
      Metadata.knownNames.foldl Table.erase entries from rfl, left] at kept
    exact of_decide_eq_true (List.mem_filter.mp kept).2

end PriorMetadata

/-! ### Where an identity comes from -/

/-- What the identity of a flow may be taken from: nothing, any data, or a flow that was compiled
from such an identity, by whatever settings, at a time that a clock can tell; and what a catalog
hands on, of no flow or of such a flow. -/
inductive Prior.Given : Prior → Prop where
  | absent : Given .absent
  | data (value : Value) : Given (.ofValue value)
  | flow {settings : Settings} {source now : String} {prior : Prior} (told : now ≠ "")
      (given : Given prior) : Given (.ofFlow (settings.compile source prior now))
  | unfiled {catalog : Catalog} {id : Value} (title description : Value)
      (new : catalog.flow? id = none) : Given (catalog.priorOf id title description)
  | filed {catalog : Catalog} {id : Value} (title description : Value) {settings : Settings}
      {source now : String} {prior : Prior} (told : now ≠ "") (given : Given prior)
      (found : catalog.flow? id = some (settings.compile source prior now)) :
      Given (catalog.priorOf id title description)

/-- All metadata that is carried on was compiled, and so it is exportable. -/
theorem Prior.Given.exportable {prior : Prior} (given : prior.Given) {metadata : Metadata}
    (carries : prior.metadata = .carried metadata) : metadata.Exportable := by
  induction given generalizing metadata with
  | absent => cases carries
  | data value =>
    unfold Prior.ofValue PriorMetadata.ofValue at carries
    split at carries <;> cases carries
  | flow told _ ih =>
    obtain rfl := PriorMetadata.carried.inj carries
    exact PriorMetadata.exportable_renew told fun _ => ih
  | unfiled title description new =>
    rw [Catalog.priorOf, new] at carries
    cases carries
  | filed title description told _ found ih =>
    rw [Catalog.priorOf, found] at carries
    split at carries
    · next old kept =>
      obtain rfl := PriorMetadata.carried.inj carries
      obtain rfl := Option.some.inj (Option.filter_eq_some_iff.mp kept).1
      exact PriorMetadata.exportable_renew told fun _ => ih
    · cases carries

/-- The identity is read off an export field by field. -/
theorem Prior.ofValue_toValue (flow : Flow) :
    ofValue flow.toValue =
      ⟨flow.id, flow.title, flow.description, .ofValue flow.metadata.toValue⟩ :=
  rfl

namespace Settings

/-- Whether the settings compiled a flow, by itself or in a catalog, with an identity from earlier
flows or data. -/
def Derives (settings : Settings) (flow : Flow) : Prop :=
  ∃ source prior now, now ≠ "" ∧ Prior.Given prior ∧ flow = settings.compile source prior now

variable {maker : Settings} {flow : Flow}

theorem Derives.exportable (derived : maker.Derives flow) : flow.metadata.Exportable := by
  obtain ⟨source, prior, now, told, given, rfl⟩ := derived
  exact PriorMetadata.exportable_renew told fun _ => given.exportable

/-- Only what becomes of the metadata of an earlier flow tells in the flow. -/
theorem compile_eq_of_renew_eq {first second : PriorMetadata} {now later : String}
    (same : first.renew now = second.renew later) (settings : Settings) (source : String)
    (id title description : Value) :
    settings.compile source ⟨id, title, description, first⟩ now =
      settings.compile source ⟨id, title, description, second⟩ later := by
  unfold compile Draft.settle
  rw [same]

/-- A flow comes out of its own chart again, as it is. -/
theorem Derives.compile_ofFlow (derived : maker.Derives flow) (later : String) :
    maker.compile flow.source (.ofFlow flow) later = flow := by
  have metadata := PriorMetadata.renew_carried derived.exportable.lastUpdated later
  obtain ⟨source, prior, now, -, -, rfl⟩ := derived
  have id := prior.id.orElse_orElse maker.flowId
  have title := prior.title.orElse_orElse maker.title
  have description := prior.description.orElse_orElse maker.description
  unfold compile Draft.settle at metadata ⊢
  unfold Prior.ofFlow
  rw [metadata, id, title, description]

/-- **A flow and its export are the same to a later compilation**, whatever chart it compiles and
with whatever settings, and however late. Of what the flow says of itself, what is not blank is
kept, and all its metadata. With the same chart and the settings that made it, the export gives the
flow itself, and so the same export. -/
theorem compile_ofValue_toValue (derived : maker.Derives flow) :
    (∀ (settings : Settings) (source now later : String),
      let again := settings.compile source (.ofFlow flow) now
      let reimported := settings.compile source (.ofValue flow.toValue) later
      reimported = again ∧ reimported.toValue = again.toValue ∧
        (flow.id.isBlank = false → again.id = flow.id) ∧
        (flow.title.isBlank = false → again.title = flow.title) ∧
        (flow.description.isBlank = false → again.description = flow.description) ∧
        again.metadata = flow.metadata) ∧
      ∀ later : String,
        (maker.compile flow.source (.ofValue flow.toValue) later).toValue = flow.toValue := by
  have carried := PriorMetadata.renew_carried derived.exportable.lastUpdated
  have readBack := PriorMetadata.renew_ofValue_toValue derived.exportable
  have sameFlow : ∀ (settings : Settings) (source now later : String),
      settings.compile source (.ofValue flow.toValue) later =
        settings.compile source (.ofFlow flow) now := by
    intro settings source now later
    have sameMetadata := (readBack later).trans (carried now).symm
    rw [Prior.ofValue_toValue]
    exact compile_eq_of_renew_eq sameMetadata settings source flow.id flow.title flow.description
  constructor
  · intro settings source now later again reimported
    have same : reimported = again := sameFlow settings source now later
    refine ⟨same, congrArg Flow.toValue same, fun present => ?_, fun present => ?_,
      fun present => ?_, carried now⟩
    · exact Value.orElse_of_isBlank_eq_false present settings.flowId
    · exact Value.orElse_of_isBlank_eq_false present settings.title
    · exact Value.orElse_of_isBlank_eq_false present settings.description
  · intro later
    rw [sameFlow maker flow.source later later, derived.compile_ofFlow later]

/-- Data about a flow, with two names for its author, one of them blank, and a blank version. -/
def describedFlow : Value :=
  .dict [("flowId", .text "core"),
    ("metadata", .dict [("created_by", .text ""), ("createdBy", .text "team"),
      ("version", .integer 0), ("owner", .text "me")])]

/-- A flow that took its id and its author from data and was compiled once more in a catalog. -/
theorem compile_ofValue_toValue_refiled :
    let first := usual.compile "A --> B" (.ofValue describedFlow) "2020-01-02T03:04:05+00:00"
    let catalog : Catalog := Catalog.register {} first
    let flow := catalog.compiled (.text "core") "A -->|go| B" (.text "Core") .null
      "2020-01-02T03:04:06+00:00"
    usual.Derives flow ∧
      flow.metadata = ⟨.text "team", .text "1.0.0", .text "2020-01-02T03:04:05+00:00",
        .ofList [("owner", .text "me")]⟩ ∧
      ∀ later : String,
        (usual.compile "A -->|go| B" (.ofValue flow.toValue) later).toValue = flow.toValue := by
  intro first catalog flow
  have filed : catalog.flow? (.text "core") = some first := by decide +kernel
  have derived : usual.Derives flow :=
    ⟨_, _, _, by decide, .filed (.text "Core") .null (by decide) (.data describedFlow) filed, rfl⟩
  have metadata : flow.metadata = ⟨.text "team", .text "1.0.0",
      .text "2020-01-02T03:04:05+00:00", .ofList [("owner", .text "me")]⟩ := by
    decide +kernel
  exact ⟨derived, metadata, (compile_ofValue_toValue derived).2⟩

end Settings

end ChartGuide
