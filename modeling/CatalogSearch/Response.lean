import CatalogSearch.Resource
import CatalogSearch.Value.Codec

/-!
# Responses

The answer to a search: for each kind of resource the entries of the requested page and the number
of all matches. On the wire the fields of an entry stand beside its score in one object, and the
results stand under the names of their kinds.
-/

namespace CatalogSearch

/-- One found resource: its fields under their canonical names, and the score of the match. -/
structure Entry where
  fields : OrderedMap String Value
  score : Option Double

namespace Entry

/-- The name beside the fields that holds the score. -/
def scoreName : String := "search_score"

/-- The value of a field under its canonical name. -/
def get? (entry : Entry) (field : String) : Option Value := entry.fields.find? field

/-- An entry as JSON: its fields and the score in one object. -/
def toJson (entry : Entry) : Json :=
  .object (insertAscending scoreName (.ofOption .ofDouble entry.score)
    (Value.toJsonMembers entry.fields.entries))

/-- Read an entry from an object. Every member but the score is a field. -/
def ofJson? : Json → Option Entry
  | .object members => do
    let score ← match valueAt? scoreName members with
      | some score => Json.nullable? Json.double? score
      | none => some none
    let fields ← Value.readMembers? (members.filter fun member => member.1 ≠ scoreName)
    pure ⟨.ofList fields, score⟩
  | _ => none

end Entry

/-- The results for one kind: the entries of the page, and the number of all matches. -/
structure KindResults where
  entries : List Entry
  total : UInt64

namespace KindResults

/-- No results. -/
def empty : KindResults := ⟨[], 0⟩

/-- Results as JSON. -/
def toJson (results : KindResults) : Json :=
  .object
    [("results", .array (results.entries.map Entry.toJson)),
     ("total_results", .ofUInt64 results.total)]

/-- Read the results for one kind. -/
def ofJson? (value : Json) : Option KindResults := do
  let [entries, total] ← value.slots? ["results", "total_results"] | none
  pure
    { entries := ← entries.required? (Json.list? Entry.ofJson?)
      total := ← total.required? Json.uint64? }

end KindResults

/-- The answer to a search. -/
structure SearchResponse where
  message : String
  pageIndex : UInt64
  resultsPerPage : UInt64
  statusCode : UInt16
  results : OrderedMap ResourceKind KindResults

namespace SearchResponse

/-- The answer in which every one of some kinds has no results. -/
def emptySuccess (pageIndex resultsPerPage : UInt64) (kinds : List ResourceKind) :
    SearchResponse where
  message := "Success"
  pageIndex := pageIndex
  resultsPerPage := resultsPerPage
  statusCode := 200
  results := .ofList (kinds.map fun kind => (kind, .empty))

/-- A response as JSON. -/
def toJson (response : SearchResponse) : Json :=
  Json.ofMembers
    [("message", .text response.message),
     ("page_index", .ofUInt64 response.pageIndex),
     ("results_per_page", .ofUInt64 response.resultsPerPage),
     ("status_code", .integer (.ofUInt64 (UInt64.ofNat response.statusCode.toNat))),
     ("results", Json.ofMembers
       (response.results.entries.map fun entry => (entry.1.name, entry.2.toJson)))]

/-- Read the results of all kinds. Their keys are exactly the names of kinds. -/
def resultsOfJson? (value : Json) : Option (OrderedMap ResourceKind KindResults) := do
  let members ← value.members? KindResults.ofJson?
  let entries ← members.mapM fun member => do
    let kind ← ResourceKind.ofName? member.1
    pure (kind, member.2)
  pure (.ofList entries)

/-- Read a response. -/
def ofJson? (value : Json) : Option SearchResponse := do
  let [message, pageIndex, resultsPerPage, statusCode, results] ← value.slots?
    ["message", "page_index", "results_per_page", "status_code", "results"] | none
  pure
    { message := ← message.required? Json.text?
      pageIndex := ← pageIndex.required? Json.uint64?
      resultsPerPage := ← resultsPerPage.required? Json.uint64?
      statusCode := UInt16.ofNat (← statusCode.required? (Json.natBelow? UInt16.size))
      results := ← results.required? resultsOfJson? }

end SearchResponse

/-- A document found by its key: the identifier that the engine gave it, and its fields under the
names they are stored by. -/
structure Document where
  id : String
  fields : OrderedMap String Value

end CatalogSearch
