/-!
# Field tables

A resource is described in canonical field names; the engine stores it under names of its own. A
field table binds the one to the other for one kind of resource. It is built from layers, where a
later binding of a canonical name changes the engine name in the place of the earlier one. A name
that the table does not bind stands for itself.
-/

namespace CatalogSearch

/-- A canonical field name and the engine field it is bound to. -/
structure FieldBinding where
  canonical : String
  engine : String
deriving DecidableEq

namespace FieldBinding

/-- The mark of the exact-match form of an engine field. -/
def exactMark : String := "keyword"

/-- The document field that holds the value: the engine field up to its first point, since the
forms of one field are stored once. -/
def sourceField (binding : FieldBinding) : String :=
  String.ofList (binding.engine.toList.takeWhile (· ≠ '.'))

/-- Whether the engine field is an exact-match form: its last part, after a point, is the mark. -/
def isExact (binding : FieldBinding) : Bool :=
  let chars := binding.engine.toList
  chars.contains '.' &&
    (chars.reverse.takeWhile (· ≠ '.')).reverse == exactMark.toList

end FieldBinding

/-- The bindings of one kind of resource, in order. -/
structure FieldTable where
  bindings : List FieldBinding
deriving DecidableEq

namespace FieldTable

/-- The table without bindings. -/
def empty : FieldTable := ⟨[]⟩

/-- Bind a canonical name, in the place of its binding if it has one and at the end if not. -/
def bindName (canonical engine : String) : List FieldBinding → List FieldBinding
  | [] => [⟨canonical, engine⟩]
  | binding :: rest =>
    if binding.canonical = canonical then ⟨binding.canonical, engine⟩ :: rest
    else binding :: bindName canonical engine rest

/-- The table of some layers of pairs of a canonical and an engine name. -/
def ofLayers (layers : List (List (String × String))) : FieldTable :=
  ⟨layers.flatten.foldl (fun bindings pair => bindName pair.1 pair.2 bindings) []⟩

/-- The binding of a canonical name. -/
def resolve? (table : FieldTable) (canonical : String) : Option FieldBinding :=
  table.bindings.find? fun binding => binding.canonical = canonical

/-- The engine field to filter on: the bound one, or the name itself. -/
def engineField (table : FieldTable) (canonical : String) : String :=
  match table.resolve? canonical with
  | some binding => binding.engine
  | none => canonical

/-- The document field that holds the value: that of the binding, or the name itself. -/
def sourceField (table : FieldTable) (canonical : String) : String :=
  match table.resolve? canonical with
  | some binding => binding.sourceField
  | none => canonical

end FieldTable

end CatalogSearch
