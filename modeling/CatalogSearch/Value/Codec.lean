import CatalogSearch.Value.Basic
import CatalogSearch.Json.Record

/-!
# Reading and writing field values

On the wire a field value carries no mark of its kind. It is read by trying the kinds in order and
taking the first that accepts the JSON value: null, truth value, signed 64-bit integer, double,
text, list, map. A double accepts every number, so an integer out of range ends there. Writing
produces the compact text directly from the value.
-/

namespace CatalogSearch.Value

/-- Read a signed 64-bit integer. -/
def readInteger? : Json → Option Int64
  | .integer value => value.toInt64?
  | _ => none

/-- Read null. -/
def readNull? : Json → Option Unit
  | .null => some ()
  | _ => none

/-- The kinds without parts, tried in order. -/
def readScalar? (value : Json) : Option Value :=
  ((readNull? value).map fun _ => .null) <|>
  (value.bool?.map .bool) <|>
  ((readInteger? value).map .integer) <|>
  (value.double?.map .real) <|>
  (value.text?.map .text)

mutual

/-- Read a value: the first kind that accepts it, the kinds without parts before lists and
maps. -/
def read? : Json → Option Value
  | .array items => readScalar? (.array items) <|> (readItems? items).map .list
  | .object members => readScalar? (.object members) <|> (readMembers? members).map .map
  | other => readScalar? other

/-- Read the items of a list. -/
def readItems? : List Json → Option (List Value)
  | [] => some []
  | item :: rest => do
    let item ← read? item
    let rest ← readItems? rest
    pure (item :: rest)

/-- Read the entries of a map. -/
def readMembers? : List (String × Json) → Option (List (String × Value))
  | [] => some []
  | (key, value) :: rest => do
    let value ← read? value
    let rest ← readMembers? rest
    pure ((key, value) :: rest)

end

/-- The characters that write a double: its text if it is finite, null otherwise. -/
def writeDouble : Double → List Char
  | .finite value => value.text
  | .infinite _ => "null".toList
  | .nan => "null".toList

mutual

/-- The characters that write a value. -/
def write : Value → List Char
  | .null => "null".toList
  | .bool true => "true".toList
  | .bool false => "false".toList
  | .integer value => integerText value.toInt
  | .real value => writeDouble value
  | .text value => Json.quoted value
  | .list items => '[' :: writeItems items ++ [']']
  | .map entries => '\x7b' :: writeEntries entries ++ ['\x7d']

/-- The items of a list, between commas. -/
def writeItems : List Value → List Char
  | [] => []
  | [item] => write item
  | item :: rest => write item ++ ',' :: writeItems rest

/-- The entries of a map, between commas. -/
def writeEntries : List (String × Value) → List Char
  | [] => []
  | [(key, value)] => Json.quoted key ++ ':' :: write value
  | (key, value) :: rest => Json.quoted key ++ ':' :: write value ++ ',' :: writeEntries rest

end

/-- The text that writes a value. -/
def serialize (value : Value) : String := String.ofList value.write

end CatalogSearch.Value
