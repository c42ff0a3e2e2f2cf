import CatalogSearch.Field.Catalog
import CatalogSearch.Relevance
import CatalogSearch.Filter
import CatalogSearch.Text.Basic

/-!
# Queries

A query for one kind of resource is made of three lists of engine clauses: those a document must
match, those that only raise its score, and those that only restrict the result. `Query.build`
makes the query for a search term and filters, `Query.ofKey` the one for a unique key.
-/

namespace CatalogSearch

/-- The clauses of a query. -/
structure Query where
  must : List Json
  should : List Json
  filter : List Json
deriving DecidableEq

namespace Query

/-- The query without clauses. -/
def empty : Query := ⟨[], [], []⟩

/-- The member that holds the clauses of one role, left out when there are none. -/
def occurrence (role : String) (clauses : List Json) : List (String × Json) :=
  if clauses.isEmpty then [] else [(role, .array clauses)]

/-- A query in the language of the engine. Without clauses it matches every document. -/
def toJson (query : Query) : Json :=
  if query.must.isEmpty && query.should.isEmpty && query.filter.isEmpty then
    .object [("match_all", .object [])]
  else
    .object
      [("bool", .object
        (occurrence "filter" query.filter ++ occurrence "must" query.must ++
          occurrence "should" query.should))]

/-- The clause that a field matches a pattern. -/
def wildcardClause (field pattern : String) : Json :=
  .object [("wildcard", .object [(field, .text pattern)])]

/-- The clauses of a filter on an engine field: one for each value when all must match, and a
single disjunction when any will do. -/
def filterClauses (mode : FilterMode) (field : String) (values : List String) : List Json :=
  let clauses := values.map (wildcardClause field)
  match mode with
  | .all => clauses
  | .any =>
    [.object
      [("bool", .object
        [("minimum_should_match", .ofUInt64 1), ("should", .array clauses)])]]

/-- The clauses of a list of filters, or the report of the first one whose operation is not
known. -/
def constraints (kind : ResourceKind) (filters : List Filter) : Except InvalidFilter (List Json) :=
  match filters with
  | [] => .ok []
  | filter :: rest => do
    let mode ← filter.mode
    let clauses ← constraints kind rest
    pure (filterClauses mode ((FieldTable.ofKind kind).engineField filter.name) filter.values ++
      clauses)

/-- The clause that a field matches a term. -/
def matchClause (spec : MatchField) (term : String) : Json :=
  let boost := match spec.boost with
    | some boost => [("boost", Json.ofDouble boost)]
    | none => []
  let fuzziness := match spec.fuzziness with
    | .auto maxExpansions =>
      [("fuzziness", Json.text "AUTO"),
       ("max_expansions", Json.ofUInt64 maxExpansions.toUInt64)]
    | .exact => []
  .object
    [("match", .object [(spec.field, .object (boost ++ fuzziness ++ [("query", .text term)]))])]

/-- The clause that a usage signal raises the score. -/
def rankFeatureClause (usage : UsageMetric) : Json :=
  .object
    [("rank_feature", .object
      [("boost", .ofDouble usage.boost), ("field", .text usage.fieldPath)])]

/-- The clause that some field of a profile matches a term; none for the empty term, which no field
could match. -/
def termClauses (profile : RelevanceProfile) (term : String) : List Json :=
  if term.isEmpty then []
  else
    [.object
      [("bool", .object
        [("should", .array (profile.matchFields.map fun spec => matchClause spec term))])]]

/-- The clauses by which usage raises the score of a match; none for the empty term, where there is
no score to raise. -/
def usageClauses (profile : RelevanceProfile) (term : String) : List Json :=
  if term.isEmpty then [] else profile.usageMetrics.map rankFeatureClause

/-- The query for a term, without the blanks at its ends, and filters. -/
def build (kind : ResourceKind) (term : String) (filters : List Filter) :
    Except InvalidFilter Query := do
  let profile := RelevanceProfile.ofKind kind
  let term := Text.trim term
  let clauses ← constraints kind filters
  pure
    { must := termClauses profile term
      should := usageClauses profile term
      filter := clauses }

/-- The query for the documents with a key. -/
def ofKey (key : String) : Query :=
  { empty with filter := [.object [("term", .object [(FieldTable.keyField, .text key)])]] }

/-- The queries for some kinds, in the order of kinds, or the report of the first filter whose
operation is not known. -/
def buildAll (kinds : List ResourceKind) (term : String) (filters : List Filter) :
    Except InvalidFilter (OrderedMap ResourceKind Query) := do
  let queries ← kinds.mapM fun kind => do
    let query ← build kind term filters
    pure (kind, query)
  pure (.ofList queries)

end Query

end CatalogSearch
