import CatalogSearch.Json.Record

/-!
# Kinds of catalog resources

The closed set of kinds that can be searched, in their fixed order. A kind has one name, in lower
case; `ofName?` takes exactly that name, while `parse?` ignores the case of ASCII letters.
-/

namespace CatalogSearch

/-- A kind of resource in the catalog. -/
inductive ResourceKind where
  | table
  | dashboard
  | feature
  | user
deriving DecidableEq

namespace ResourceKind

/-- Every kind, in order; these are searched when a request names none. -/
def all : List ResourceKind := [.table, .dashboard, .feature, .user]

/-- The place of a kind in the order. -/
def rank : ResourceKind → Nat
  | .table => 0
  | .dashboard => 1
  | .feature => 2
  | .user => 3

/-- The name of a kind. -/
def name : ResourceKind → String
  | .table => "table"
  | .dashboard => "dashboard"
  | .feature => "feature"
  | .user => "user"

/-- The kind with exactly this name. -/
def ofName? (text : String) : Option ResourceKind := all.find? fun kind => kind.name = text

/-- The kind with this name, whatever the case of its ASCII letters. -/
def parse? (text : String) : Option ResourceKind :=
  ofName? (String.ofList (text.toList.map Char.toLower))

/-- Kinds are compared by their place in the order. -/
instance : Ord ResourceKind := ⟨fun a b => compare a.rank b.rank⟩

/-- The order of kinds is transitive. -/
instance : Std.TransOrd ResourceKind where
  eq_swap := by intro a b; cases a <;> cases b <;> rfl
  isLE_trans := by intro a b c; cases a <;> cases b <;> cases c <;> decide

/-- Only equal kinds compare as equal. -/
instance : Std.LawfulEqOrd ResourceKind where
  compare_self := by intro a; cases a <;> rfl
  eq_of_compare := by intro a b; cases a <;> cases b <;> decide

/-- A kind as JSON: its name. -/
def toJson (kind : ResourceKind) : Json := .text kind.name

/-- Read a kind, as one of the names of the closed set. -/
def ofJson? (value : Json) : Option ResourceKind := value.name?.bind ofName?

/-- The name of a kind is read as that kind. -/
@[simp] theorem ofName?_name (kind : ResourceKind) : ofName? kind.name = some kind := by
  cases kind <;> decide

/-- Every kind is one of the listed ones. -/
theorem mem_all (kind : ResourceKind) : kind ∈ all := by
  cases kind <;> decide

end ResourceKind

end CatalogSearch
