import CatalogSearch.Json.Printer

/-!
# Field values

The value of a document field, independent of the search engine that stores it. It differs from a
JSON value in its numbers: integers are signed 64-bit ones and every other number is a double,
which need not be finite. `Value.ofJson` and `Value.toJson` convert; a value is displayed as its
compact JSON text, except that a text is displayed as it is.
-/

namespace CatalogSearch

/-- The value of a document field. -/
inductive Value where
  | null
  | bool (value : Bool)
  | integer (value : Int64)
  | real (value : Double)
  | text (value : String)
  | list (items : List Value)
  | map (entries : List (String × Value))

namespace Value

/-- The value of a JSON number without fraction: an integer if it is a signed 64-bit one, and the
nearest double otherwise. -/
def ofWhole (number : Whole) : Value :=
  match number.toInt64? with
  | some value => .integer value
  | none => .real (.finite number.toFinite)

mutual

/-- The field value that a JSON value stands for. -/
def ofJson : Json → Value
  | .null => .null
  | .bool value => .bool value
  | .integer value => ofWhole value
  | .decimal value => .real (.finite value)
  | .text value => .text value
  | .array items => .list (ofJsonItems items)
  | .object members => .map (ofJsonMembers members)

/-- The field values that the items of a JSON array stand for. -/
def ofJsonItems : List Json → List Value
  | [] => []
  | item :: rest => ofJson item :: ofJsonItems rest

/-- The entries that the members of a JSON object stand for. -/
def ofJsonMembers : List (String × Json) → List (String × Value)
  | [] => []
  | (key, value) :: rest => (key, ofJson value) :: ofJsonMembers rest

end

mutual

/-- The JSON value of a field value. A double that is not finite becomes null. -/
def toJson : Value → Json
  | .null => .null
  | .bool value => .bool value
  | .integer value => .integer (.ofInt64 value)
  | .real value => .ofDouble value
  | .text value => .text value
  | .list items => .array (toJsonItems items)
  | .map entries => .object (toJsonMembers entries)

/-- The items of the JSON array of a list. -/
def toJsonItems : List Value → List Json
  | [] => []
  | item :: rest => toJson item :: toJsonItems rest

/-- The members of the JSON object of a map. -/
def toJsonMembers : List (String × Value) → List (String × Json)
  | [] => []
  | (key, value) :: rest => (key, toJson value) :: toJsonMembers rest

end

/-- The text that shows a value: a text as it is, and the JSON text of any other value. -/
def display : Value → String
  | .text value => value
  | other => other.toJson.compact

end Value

end CatalogSearch
