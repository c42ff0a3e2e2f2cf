import CatalogSearch.Json.Record
import CatalogSearch.Text.Quoted

/-!
# Filters

A filter asks for documents in which a field has all, or any, of some values. Its operation stays
a text until the filter is used, so that one which is not known can be reported as it was
written.
-/

namespace CatalogSearch

/-- How the values of a filter combine. -/
inductive FilterMode where
  | all
  | any
deriving DecidableEq

namespace FilterMode

/-- The operation that asks for this mode. -/
def name : FilterMode → String
  | .all => "AND"
  | .any => "OR"

/-- The mode that an operation asks for. -/
def parse? (text : String) : Option FilterMode :=
  if text = FilterMode.all.name then some .all
  else if text = FilterMode.any.name then some .any
  else none

end FilterMode

/-- A filter on a field, under its canonical name. -/
structure Filter where
  name : String
  operation : String
  values : List String
deriving DecidableEq

namespace Filter

/-- The filter for documents in which a field has any of some values. -/
def anyOf (name : String) (values : List String) : Filter := ⟨name, FilterMode.any.name, values⟩

/-- The filter for documents in which a field has all of some values. -/
def allOf (name : String) (values : List String) : Filter := ⟨name, FilterMode.all.name, values⟩

/-- The mode of a filter, if its operation is a known one. -/
def mode? (filter : Filter) : Option FilterMode := FilterMode.parse? filter.operation

/-- A filter as JSON. -/
def toJson (filter : Filter) : Json :=
  .object
    [("name", .text filter.name),
     ("operation", .text filter.operation),
     ("values", .array (filter.values.map .text))]

/-- Read a filter. -/
def ofJson? (value : Json) : Option Filter := do
  let [name, operation, values] ← value.slots? ["name", "operation", "values"] | none
  pure
    { name := ← name.required? Json.text?
      operation := ← operation.required? Json.text?
      values := ← values.required? (Json.list? Json.text?) }

end Filter

/-- The report of a filter whose operation is not known. -/
structure InvalidFilter where
  filter : Filter
deriving DecidableEq

/-- The text of the report: the operation and the name as they are, and the values quoted. -/
def InvalidFilter.message (invalid : InvalidFilter) : String :=
  "Invalid operation " ++ invalid.filter.operation ++ " for filter " ++ invalid.filter.name ++
    " with values " ++ Text.quotedList invalid.filter.values

/-- The mode of a filter, or the report that it has none. -/
def Filter.mode (filter : Filter) : Except InvalidFilter FilterMode :=
  match filter.mode? with
  | some mode => .ok mode
  | none => .error ⟨filter⟩

end CatalogSearch
