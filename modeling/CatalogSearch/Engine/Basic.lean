import CatalogSearch.Failure
import CatalogSearch.Json.Record

/-!
# The search engine

What the catalog needs of a document search engine: a liveness probe, the state of its cluster,
several searches in one round trip, and the partial update of one document. An engine acts on a
state of its own, which its operations carry along.
-/

namespace CatalogSearch

/-- A document that a search found. -/
structure Hit where
  index : String
  id : Option String
  score : Option Double
  source : Option Json

/-- The reply to a search: the hits of the page, and the number of all matches if it is told. -/
structure Reply where
  total : Option UInt64
  hits : List Hit

namespace Reply

/-- The number of all matches: as told, or else the number of hits. -/
def totalHits (reply : Reply) : UInt64 :=
  reply.total.getD (UInt64.ofNat reply.hits.length)

end Reply

/-- The outcome of one search of several: a reply, or what the engine said in refusing it. -/
inductive Item where
  | success (reply : Reply)
  | failure (failures : Json)

/-- One search of several: the index, the query, and the slice of the result to return. -/
structure SearchCall where
  index : String
  query : Json
  offset : UInt64
  size : UInt64
deriving DecidableEq

namespace SearchCall

/-- The line that says where to search. -/
def header (call : SearchCall) : Json := .object [("index", .text call.index)]

/-- The line that says what to search. -/
def body (call : SearchCall) : Json :=
  .object [("from", .ofUInt64 call.offset), ("query", call.query), ("size", .ofUInt64 call.size)]

end SearchCall

/-- A search engine with a state. -/
structure Engine (σ : Type) where
  ping : StateM σ (Except InternalError Bool)
  clusterHealth : StateM σ (Except InternalError Json)
  multiSearch : List SearchCall → StateM σ (Except InternalError (List Item))
  updateDocument : (index id : String) → (body : Json) → StateM σ (Except InternalError Unit)

end CatalogSearch
