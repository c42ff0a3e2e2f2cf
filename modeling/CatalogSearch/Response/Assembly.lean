import CatalogSearch.Engine.Basic
import CatalogSearch.Field.Catalog
import CatalogSearch.Response

/-!
# Assembling responses

How the engine's replies become the response to a search. A hit is read through the field table of
its kind: every bound field that the document stores appears under its canonical name. The kind of
a reply is the one that its first document declares, or the one that was searched for; a reply
without hits adds nothing to the empty results that every requested kind starts with. One refusal
fails the whole response.
-/

namespace CatalogSearch

namespace Hit

/-- The stored value of a document field. -/
def stored? (hit : Hit) (field : String) : Option Json :=
  hit.source.bind (Json.member? field)

/-- All stored fields, under the names they are stored by. -/
def sourceFields (hit : Hit) : OrderedMap String Value :=
  match hit.source with
  | some (.object members) => .ofEntries (Value.ofJsonMembers members)
  | _ => .empty

/-- The kind that a document declares, if it names a known one. -/
def declaredKind? (hit : Hit) : Option ResourceKind :=
  ((hit.stored? FieldTable.kindField).bind Json.text?).bind ResourceKind.parse?

/-- A hit in canonical fields. -/
def toEntry (table : FieldTable) (hit : Hit) : Entry where
  fields := .ofEntries (table.bindings.filterMap fun binding =>
    (hit.stored? binding.sourceField).map fun value => (binding.canonical, Value.ofJson value))
  score := hit.score

end Hit

namespace Reply

/-- The kind of the documents of a reply to a search for one kind, if there is a document. -/
def kind? (reply : Reply) (searched : ResourceKind) : Option ResourceKind :=
  reply.hits.head?.map fun hit => hit.declaredKind?.getD searched

/-- The results for a kind that a reply holds. -/
def toResults (reply : Reply) (kind : ResourceKind) : KindResults where
  entries := reply.hits.map (Hit.toEntry (FieldTable.ofKind kind))
  total := reply.totalHits

end Reply

namespace SearchResponse

/-- Put the results of a reply to a search for one kind into a response, in place of what it holds
for the kind of the documents. -/
def addReply (response : SearchResponse) (searched : ResourceKind) (reply : Reply) :
    SearchResponse :=
  match reply.kind? searched with
  | some kind => { response with results := response.results.insert kind (reply.toResults kind) }
  | none => response

/-- Put the outcomes of some searches into a response, one after the other, up to the first
refusal. -/
def addOutcomes (response : SearchResponse) :
    List (ResourceKind × Item) → Except EngineFailure SearchResponse
  | [] => .ok response
  | (searched, .success reply) :: rest => (response.addReply searched reply).addOutcomes rest
  | (searched, .failure failures) :: _ => .error ⟨searched, failures⟩

/-- The response to a search for some kinds, from the outcomes of the searches. -/
def assemble (pageIndex resultsPerPage : UInt64) (outcomes : List (ResourceKind × Item))
    (requested : List ResourceKind) : Except EngineFailure SearchResponse :=
  (emptySuccess pageIndex resultsPerPage requested).addOutcomes outcomes

end SearchResponse

end CatalogSearch
