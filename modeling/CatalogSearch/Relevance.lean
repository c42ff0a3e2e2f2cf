import CatalogSearch.Double.Basic
import CatalogSearch.Resource

/-!
# Relevance profiles

For each kind of resource, the document fields that a search term is matched against and the usage
signals that lift the score of a match. Weights are numbers of single precision.
-/

namespace CatalogSearch

/-- How closely a word must match: within an edit distance that the engine derives from its
length, trying at most so many words, or exactly. -/
inductive Fuzziness where
  | auto (maxExpansions : UInt32)
  | exact
deriving DecidableEq

/-- The number of words tried unless a profile says otherwise. -/
def Fuzziness.defaultExpansions : UInt32 := 10

/-- A document field that a search term is matched against. -/
structure MatchField where
  field : String
  boost : Option Double
  fuzziness : Fuzziness
deriving DecidableEq

namespace MatchField

/-- Match a field within an edit distance. -/
def fuzzy (field : String) : MatchField := ⟨field, none, .auto Fuzziness.defaultExpansions⟩

/-- Match a field exactly. -/
def exact (field : String) : MatchField := ⟨field, none, .exact⟩

/-- Weight a match, by a number rounded to single precision. -/
def boosted (spec : MatchField) (boost : Double) : MatchField :=
  { spec with boost := some boost.toSingle }

/-- Match within an edit distance, trying at most so many words. -/
def withMaxExpansions (spec : MatchField) (count : UInt32) : MatchField :=
  { spec with fuzziness := .auto count }

end MatchField

/-- A usage signal of a document, stored under its usage object. -/
structure UsageMetric where
  metric : String
  boost : Double
deriving DecidableEq

namespace UsageMetric

/-- A usage signal with the common weight. -/
def named (metric : String) : UsageMetric := ⟨metric, .ofRatio false 10 1 Nat.one_pos⟩

/-- The path of the signal inside a document. -/
def fieldPath (usage : UsageMetric) : String := "usage." ++ usage.metric

end UsageMetric

/-- What makes a match of one kind relevant. -/
structure RelevanceProfile where
  matchFields : List MatchField
  usageMetrics : List UsageMetric

namespace RelevanceProfile

/-- Match a field within an edit distance, with a weight in tenths. -/
private def weighted (field : String) (tenths : Nat) : MatchField :=
  (MatchField.fuzzy field).boosted (.ofRatio false tenths 10 (by decide))

/-- The fields that tables, dashboards and features are all matched against. -/
def commonFields : List MatchField :=
  [weighted "name" 50, weighted "description" 15, .fuzzy "badges", .fuzzy "tags"]

/-- The profile of a kind. -/
def ofKind : ResourceKind → RelevanceProfile
  | .table =>
    { matchFields := commonFields ++
        [weighted "schema" 30, (weighted "columns" 20).withMaxExpansions 5]
      usageMetrics := [.named "total_usage", .named "unique_usage"] }
  | .dashboard =>
    { matchFields := commonFields ++
        [weighted "group_name" 30, weighted "query_names" 20, weighted "chart_names" 20,
         weighted "uri" 40]
      usageMetrics := [.named "total_usage"] }
  | .feature =>
    { matchFields := commonFields ++
        [weighted "feature_group" 30, .exact "version", weighted "entity" 20, .exact "status"]
      usageMetrics := [.named "total_usage"] }
  | .user =>
    { matchFields :=
        [weighted "name" 50, weighted "first_name" 30, weighted "last_name" 30,
         .fuzzy "team_name", weighted "key" 40]
      usageMetrics := [.named "total_read", .named "total_own", .named "total_follow"] }

end RelevanceProfile

end CatalogSearch
