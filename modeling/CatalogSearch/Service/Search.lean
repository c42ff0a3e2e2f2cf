import CatalogSearch.Json.Record
import CatalogSearch.Query.Basic
import CatalogSearch.Request
import CatalogSearch.Response.Assembly

/-!
# Searching the catalog

A catalog is a search engine together with a configuration. A search runs the queries of all its
kinds in one round, each against the index of its kind and sliced to the same page. A round that
fails as a whole counts as one without outcomes, so its search finds nothing.
-/

namespace CatalogSearch

/-- The configuration of a catalog. -/
structure CatalogConfig where
  indexSuffix : String
  defaultPageSize : UInt64
deriving DecidableEq

namespace CatalogConfig

/-- The configuration used unless another is given. -/
def standard : CatalogConfig := ⟨"_search_index", 10⟩

/-- Read a configuration. What is not given is as in the standard one. -/
def ofJson? (value : Json) : Option CatalogConfig := do
  let [suffix, pageSize] ← value.slots? ["index_suffix", "default_page_size"] | none
  pure
    { indexSuffix := ← suffix.withDefault? standard.indexSuffix Json.text?
      defaultPageSize := ← pageSize.withDefault? standard.defaultPageSize Json.uint64? }

end CatalogConfig

/-- A catalog over an engine with a state. -/
structure Catalog (σ : Type) where
  engine : Engine σ
  config : CatalogConfig

/-- The first result of a page, or the greatest number that can be told if it lies beyond. -/
def pageOffset (pageIndex size : UInt64) : UInt64 :=
  if pageIndex.toNat * size.toNat < UInt64.size then pageIndex * size
  else UInt64.ofNat (UInt64.size - 1)

namespace Catalog

variable {σ : Type}

/-- The index that holds the documents of a kind. -/
def index (catalog : Catalog σ) (kind : ResourceKind) : String :=
  kind.name ++ catalog.config.indexSuffix

/-- The size of a page: as requested, or as configured when zero is requested. -/
def pageSize (catalog : Catalog σ) (requested : UInt64) : UInt64 :=
  if requested = 0 then catalog.config.defaultPageSize else requested

/-- The round of searches for some queries: one search for each kind, in order. -/
def calls (catalog : Catalog σ) (queries : OrderedMap ResourceKind Query)
    (pageIndex size : UInt64) : List SearchCall :=
  queries.entries.map fun entry =>
    { index := catalog.index entry.1
      query := entry.2.toJson
      offset := pageOffset pageIndex size
      size := size }

/-- Run some queries in one round, and pair the outcomes with the kinds. Without queries there is
no round. -/
def execute (catalog : Catalog σ) (queries : OrderedMap ResourceKind Query)
    (pageIndex size : UInt64) : StateM σ (List (ResourceKind × Item)) :=
  if queries.entries.isEmpty then pure []
  else do
    match ← catalog.engine.multiSearch (catalog.calls queries pageIndex size) with
    | .ok items => pure (queries.keys.zip items)
    | .error _ => pure []

/-- Answer a search. -/
def search (catalog : Catalog σ) (request : SearchRequest) :
    StateM σ (Except SearchFailure SearchResponse) :=
  let kinds := request.effectiveKinds
  let size := catalog.pageSize request.resultsPerPage
  match Query.buildAll kinds request.term request.filters with
  | .error invalid => pure (.error (.invalidFilter invalid))
  | .ok queries => do
    let outcomes ← catalog.execute queries request.pageIndex size
    match SearchResponse.assemble request.pageIndex size outcomes kinds with
    | .ok response => pure (.ok response)
    | .error failure => pure (.error (.engine failure))

end Catalog

end CatalogSearch
