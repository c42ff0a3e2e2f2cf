import CatalogSearch.Json.Basic

/-!
# Reading records from JSON

The rules by which this library reads its own structures from JSON. A record is written as an
object, whose unknown members are ignored, or as an array of its fields in their order. A field
with a default may be missing in either form and an optional one only in an object, where null
says the same; a name of a closed set is written as a string, or as an object with that one key
and null under it. Unsigned integers are read from integers in range only, doubles from every
number.
-/

namespace CatalogSearch.Json

/-- What a record holds for one of its fields: a value, nothing in an object that lacks the key,
or nothing in an array that ends before it. -/
inductive Slot where
  | given (value : Json)
  | missing
  | beyond

/-- The slots of a record with the given field names, in their order. -/
def slots? (names : List String) : Json → Option (List Slot)
  | .object members =>
    some (names.map fun name => ((valueAt? name members).map Slot.given).getD .missing)
  | .array items =>
    if items.length ≤ names.length then
      some (items.map Slot.given ++ List.replicate (names.length - items.length) .beyond)
    else none
  | _ => none

variable {α : Type}

/-- Read a value that may be null. -/
def nullable? (decode : Json → Option α) : Json → Option (Option α)
  | .null => some none
  | value => (decode value).map some

namespace Slot

/-- Read a field that must be given. -/
def required? (decode : Json → Option α) : Slot → Option α
  | .given value => decode value
  | .missing => none
  | .beyond => none

/-- Read an optional field. An array must hold it, as null if it is to be absent. -/
def optional? (decode : Json → Option α) : Slot → Option (Option α)
  | .given value => nullable? decode value
  | .missing => some none
  | .beyond => none

/-- Read a field that has a default. -/
def withDefault? (default : α) (decode : Json → Option α) : Slot → Option α
  | .given value => decode value
  | .missing => some default
  | .beyond => some default

end Slot

/-- Read a truth value. -/
def bool? : Json → Option Bool
  | .bool value => some value
  | _ => none

/-- Read an unsigned 64-bit integer. -/
def uint64? : Json → Option UInt64
  | .integer value => value.toUInt64?
  | _ => none

/-- Read a natural number below a bound. -/
def natBelow? (bound : Nat) (value : Json) : Option Nat := do
  let n ← uint64? value
  if n.toNat < bound then some n.toNat else none

/-- Read a double from any number. -/
def finite? : Json → Option Finite
  | .integer value => some value.toFinite
  | .decimal value => some value
  | _ => none

/-- Read a double from any number. The result is finite. -/
def double? (value : Json) : Option Double := (finite? value).map Double.finite

/-- Read an array, item by item. -/
def list? (decode : Json → Option α) : Json → Option (List α)
  | .array items => items.mapM decode
  | _ => none

/-- Read an object, member by member. -/
def members? (decode : Json → Option α) : Json → Option (List (String × α))
  | .object members => members.mapM fun member => (decode member.2).map (member.1, ·)
  | _ => none

/-- Read a name of a closed set. -/
def name? : Json → Option String
  | .text value => some value
  | .object [(name, .null)] => some name
  | _ => none

end CatalogSearch.Json
