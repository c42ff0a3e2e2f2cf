import CatalogSearch.Filter
import CatalogSearch.Resource

/-!
# Requests

What callers ask of the catalog: a page of a search over some kinds of resources, and a change of
one field of the document with a given key. A page size of zero stands for the configured one, an
empty list of kinds for all of them.
-/

namespace CatalogSearch

/-- A page of a search. -/
structure SearchRequest where
  term : String
  pageIndex : UInt64
  resultsPerPage : UInt64
  kinds : List ResourceKind
  filters : List Filter
deriving DecidableEq

namespace SearchRequest

/-- The kinds to search, in order and each once: those requested, or all when none is. -/
def effectiveKinds (request : SearchRequest) : List ResourceKind :=
  if request.kinds.isEmpty then ResourceKind.all
  else ResourceKind.all.filter fun kind => request.kinds.contains kind

/-- A search request as JSON. -/
def toJson (request : SearchRequest) : Json :=
  Json.ofMembers
    [("term", .text request.term),
     ("page_index", .ofUInt64 request.pageIndex),
     ("results_per_page", .ofUInt64 request.resultsPerPage),
     ("resource_types", .array (request.kinds.map ResourceKind.toJson)),
     ("filters", .array (request.filters.map Filter.toJson))]

/-- Read a search request. Every field has a default. -/
def ofJson? (value : Json) : Option SearchRequest := do
  let [term, pageIndex, resultsPerPage, kinds, filters] ← value.slots?
    ["term", "page_index", "results_per_page", "resource_types", "filters"] | none
  pure
    { term := ← term.withDefault? "" Json.text?
      pageIndex := ← pageIndex.withDefault? 0 Json.uint64?
      resultsPerPage := ← resultsPerPage.withDefault? 0 Json.uint64?
      kinds := ← kinds.withDefault? [] (Json.list? ResourceKind.ofJson?)
      filters := ← filters.withDefault? [] (Json.list? Filter.ofJson?) }

end SearchRequest

/-- How a new value joins the current one: next to it, or in its place. -/
inductive UpdateMode where
  | add
  | overwrite
deriving DecidableEq

namespace UpdateMode

/-- The name of a mode. -/
def name : UpdateMode → String
  | .add => "add"
  | .overwrite => "overwrite"

/-- The mode with exactly this name. -/
def ofName? (text : String) : Option UpdateMode :=
  [UpdateMode.add, UpdateMode.overwrite].find? fun mode => mode.name = text

/-- A mode as JSON: its name. -/
def toJson (mode : UpdateMode) : Json := .text mode.name

/-- Read a mode, as one of the names of the closed set. -/
def ofJson? (value : Json) : Option UpdateMode := value.name?.bind ofName?

end UpdateMode

/-- A request to put a value into a field, named canonically, of the document with a key. -/
structure UpdateRequest where
  kind : ResourceKind
  key : String
  field : String
  value : String
  mode : UpdateMode
deriving DecidableEq

namespace UpdateRequest

/-- An update request as JSON. -/
def toJson (request : UpdateRequest) : Json :=
  Json.ofMembers
    [("resource_type", request.kind.toJson),
     ("key", .text request.key),
     ("field", .text request.field),
     ("value", .text request.value),
     ("operation", request.mode.toJson)]

/-- Read an update request. It adds the value unless it says otherwise. -/
def ofJson? (value : Json) : Option UpdateRequest := do
  let [kind, key, field, newValue, mode] ← value.slots?
    ["resource_type", "key", "field", "value", "operation"] | none
  pure
    { kind := ← kind.required? ResourceKind.ofJson?
      key := ← key.required? Json.text?
      field := ← field.required? Json.text?
      value := ← newValue.required? Json.text?
      mode := ← mode.withDefault? .add UpdateMode.ofJson? }

end UpdateRequest

/-- A request to remove a value from a field, named canonically, of the document with a key, or
every value when none is given. -/
structure DeleteRequest where
  kind : ResourceKind
  key : String
  field : String
  value : Option String
deriving DecidableEq

namespace DeleteRequest

/-- A delete request as JSON. -/
def toJson (request : DeleteRequest) : Json :=
  Json.ofMembers
    [("resource_type", request.kind.toJson),
     ("key", .text request.key),
     ("field", .text request.field),
     ("value", .ofOption .text request.value)]

/-- Read a delete request. -/
def ofJson? (value : Json) : Option DeleteRequest := do
  let [kind, key, field, removed] ← value.slots?
    ["resource_type", "key", "field", "value"] | none
  pure
    { kind := ← kind.required? ResourceKind.ofJson?
      key := ← key.required? Json.text?
      field := ← field.required? Json.text?
      value := ← removed.withDefault? none (Json.nullable? Json.text?) }

end DeleteRequest

end CatalogSearch
