import CatalogSearch.Double.Basic
import CatalogSearch.OrderedMap

/-!
# JSON values

A JSON value keeps apart the two kinds of number that matter to its readers: integers that fit in
64 bits, signed or unsigned, and finite doubles. Members of an object are kept as a list;
`Json.ofMembers` builds the list that every reader and writer of this library produces, in
increasing order of keys with each key once, where the last of several members of one key counts.
-/

namespace CatalogSearch

/-! A power of a number is the core library's power, whatever other powers are in scope. -/

attribute [local instance (1100)] instPowNat

/-- An integer that fits in 64 bits, signed or unsigned. -/
structure Whole where
  val : Int
  le_val : -2 ^ (63 : Nat) ≤ val
  val_lt : val < 2 ^ (64 : Nat)
deriving DecidableEq

namespace Whole

/-- An integer, if it fits. -/
def ofInt? (value : Int) : Option Whole :=
  if h : -2 ^ (63 : Nat) ≤ value ∧ value < 2 ^ (64 : Nat) then some ⟨value, h.1, h.2⟩ else none

/-- A signed 64-bit integer. -/
def ofInt64 (value : Int64) : Whole :=
  ⟨value.toInt, Int64.le_toInt value, by have := Int64.toInt_lt value; omega⟩

/-- An unsigned 64-bit integer. -/
def ofUInt64 (value : UInt64) : Whole :=
  ⟨value.toNat, by omega, by have := UInt64.toNat_lt value; omega⟩

/-- The integer as a signed one, if it fits. -/
def toInt64? (value : Whole) : Option Int64 :=
  if value.val < 2 ^ (63 : Nat) then some (Int64.ofInt value.val) else none

/-- The integer as an unsigned one, if it is not negative. -/
def toUInt64? (value : Whole) : Option UInt64 :=
  if 0 ≤ value.val then some (UInt64.ofNat value.val.toNat) else none

/-- The nearest double. -/
def toFinite (value : Whole) : Finite :=
  Finite.ofInt value.val (by have := value.le_val; have := value.val_lt; omega)

/-- A signed integer is read back as itself. -/
@[simp] theorem toInt64?_ofInt64 (value : Int64) : (ofInt64 value).toInt64? = some value := by
  have h : value.toInt < 2 ^ (63 : Nat) := Int64.toInt_lt value
  simp only [toInt64?, ofInt64, if_pos h, Int64.ofInt_toInt]

/-- An unsigned integer is read back as itself. -/
@[simp] theorem toUInt64?_ofUInt64 (value : UInt64) : (ofUInt64 value).toUInt64? = some value := by
  simp [toUInt64?, ofUInt64]

/-- An integer that is read as a signed one is written as itself. -/
theorem ofInt64_of_toInt64? {value : Whole} {i : Int64} (h : value.toInt64? = some i) :
    ofInt64 i = value := by
  obtain ⟨val, hle, hlt⟩ := value
  simp only [toInt64?] at h
  split at h
  · rename_i hsigned
    cases h
    simp only [ofInt64, Whole.mk.injEq]
    exact Int64.toInt_ofInt_of_le hle hsigned
  · cases h

end Whole

/-- A JSON value. -/
inductive Json where
  | null
  | bool (value : Bool)
  | integer (value : Whole)
  | decimal (value : Finite)
  | text (value : String)
  | array (items : List Json)
  | object (members : List (String × Json))

namespace Json

mutual

/-- Equality of JSON values is decidable. -/
def decEq : (left right : Json) → Decidable (left = right)
  | .null, .null => isTrue rfl
  | .bool a, .bool b => decidable_of_iff (a = b) (by simp)
  | .integer a, .integer b => decidable_of_iff (a = b) (by simp)
  | .decimal a, .decimal b => decidable_of_iff (a = b) (by simp)
  | .text a, .text b => decidable_of_iff (a = b) (by simp)
  | .array a, .array b =>
    match decEqItems a b with
    | isTrue h => isTrue (by rw [h])
    | isFalse h => isFalse (by simpa using h)
  | .object a, .object b =>
    match decEqMembers a b with
    | isTrue h => isTrue (by rw [h])
    | isFalse h => isFalse (by simpa using h)
  | .null, .bool _ | .null, .integer _ | .null, .decimal _ | .null, .text _ | .null, .array _
  | .null, .object _ | .bool _, .null | .bool _, .integer _ | .bool _, .decimal _
  | .bool _, .text _ | .bool _, .array _ | .bool _, .object _ | .integer _, .null
  | .integer _, .bool _ | .integer _, .decimal _ | .integer _, .text _ | .integer _, .array _
  | .integer _, .object _ | .decimal _, .null | .decimal _, .bool _ | .decimal _, .integer _
  | .decimal _, .text _ | .decimal _, .array _ | .decimal _, .object _ | .text _, .null
  | .text _, .bool _ | .text _, .integer _ | .text _, .decimal _ | .text _, .array _
  | .text _, .object _ | .array _, .null | .array _, .bool _ | .array _, .integer _
  | .array _, .decimal _ | .array _, .text _ | .array _, .object _ | .object _, .null
  | .object _, .bool _ | .object _, .integer _ | .object _, .decimal _ | .object _, .text _
  | .object _, .array _ => isFalse (by simp)

/-- Equality of lists of JSON values is decidable. -/
def decEqItems : (left right : List Json) → Decidable (left = right)
  | [], [] => isTrue rfl
  | [], _ :: _ => isFalse (by simp)
  | _ :: _, [] => isFalse (by simp)
  | a :: as, b :: bs =>
    match decEq a b, decEqItems as bs with
    | isTrue h, isTrue h' => isTrue (by rw [h, h'])
    | isFalse h, _ => isFalse (by simp [h])
    | _, isFalse h => isFalse (by simp [h])

/-- Equality of lists of members is decidable. -/
def decEqMembers : (left right : List (String × Json)) → Decidable (left = right)
  | [], [] => isTrue rfl
  | [], _ :: _ => isFalse (by simp)
  | _ :: _, [] => isFalse (by simp)
  | (k, a) :: as, (l, b) :: bs =>
    match decEq a b, decEqMembers as bs with
    | isTrue h, isTrue h' =>
      if hk : k = l then isTrue (by rw [hk, h, h']) else isFalse (by simp [hk])
    | isFalse h, _ => isFalse (by simp [h])
    | _, isFalse h => isFalse (by simp [h])

end

/-- JSON values are compared member by member, in order. -/
instance : DecidableEq Json := decEq

/-- The default JSON value is null. -/
instance : Inhabited Json := ⟨.null⟩

/-- The object of a list of members; of several values for a key, the last one counts. -/
def ofMembers (members : List (String × Json)) : Json :=
  .object (OrderedMap.ofList members).entries

/-- The member of an object under a key; other values have no members. -/
def member? (key : String) : Json → Option Json
  | .object members => valueAt? key members
  | _ => none

/-- The text of a string; other values are none. -/
def text? : Json → Option String
  | .text value => some value
  | _ => none

/-- An unsigned integer as a JSON number. -/
def ofUInt64 (value : UInt64) : Json := .integer (.ofUInt64 value)

/-- A double as a JSON number. JSON has no infinities and no non-number; they become null. -/
def ofDouble : Double → Json
  | .finite value => .decimal value
  | .infinite _ => .null
  | .nan => .null

/-- An optional value, null when absent. -/
def ofOption {α : Type} (encode : α → Json) : Option α → Json
  | some value => encode value
  | none => .null

end Json

end CatalogSearch
