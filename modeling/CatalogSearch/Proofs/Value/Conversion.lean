import CatalogSearch.Value.Basic

/-!
# From JSON to field values and back

A field value has no integers beyond the signed 64-bit ones, so a JSON value that becomes a field
value and is written back has each such integer rounded to a double (`Value.toJson_ofJson`), at
whatever depth it stands. Nothing else changes: `Json.narrowed_eq_self_iff` says that the values
which come back as they were are exactly those without such an integer.
-/

namespace CatalogSearch

/-! A power of a number is the core library's power, whatever other powers are in scope. -/

attribute [local instance (1100)] instPowNat

namespace Json

/-- The text that shows a value: a text as it is, and the JSON text of any other value. -/
def display : Json → String
  | .text value => value
  | other => other.compact

/-- One value is part of another: it is that value, or part of one of its items or members. -/
inductive Within (part : Json) : Json → Prop where
  | here : Within part part
  | item {item : Json} {items : List Json} :
      item ∈ items → Within part item → Within part (.array items)
  | member {key : String} {value : Json} {members : List (String × Json)} :
      (key, value) ∈ members → Within part value → Within part (.object members)

mutual

/-- A value with its integers beyond the signed 64-bit ones rounded to doubles, at any depth. -/
def narrowed : Json → Json
  | .integer value =>
    if value.val < 2 ^ (63 : Nat) then .integer value else .decimal value.toFinite
  | .array items => .array (narrowedItems items)
  | .object members => .object (narrowedMembers members)
  | other => other

/-- Items with their integers narrowed. -/
def narrowedItems : List Json → List Json
  | [] => []
  | item :: rest => narrowed item :: narrowedItems rest

/-- Members with the integers in their values narrowed. -/
def narrowedMembers : List (String × Json) → List (String × Json)
  | [] => []
  | (key, value) :: rest => (key, narrowed value) :: narrowedMembers rest

end

/-- Items are narrowed one by one. -/
theorem narrowedItems_eq_map (items : List Json) : narrowedItems items = items.map narrowed := by
  induction items with
  | nil => rfl
  | cons item rest ih => rw [narrowedItems, ih, List.map_cons]

/-- The integers in a value are all signed 64-bit ones. -/
def IsSigned (value : Json) : Prop :=
  ∀ whole : Whole, Within (.integer whole) value → whole.val < 2 ^ (63 : Nat)

/-- An integer is part of itself only. -/
theorem isSigned_integer_iff {value : Whole} :
    IsSigned (.integer value) ↔ value.val < 2 ^ (63 : Nat) := by
  constructor
  · intro h
    exact h value .here
  · intro h whole hwithin
    cases hwithin
    exact h

/-- The integers in an array are those in its items. -/
theorem isSigned_array_iff {items : List Json} :
    IsSigned (.array items) ↔ ∀ item ∈ items, item.IsSigned := by
  constructor
  · intro h item hitem whole hwithin
    exact h whole (.item hitem hwithin)
  · intro h whole hwithin
    cases hwithin with
    | item hitem hwithin => exact h _ hitem whole hwithin

/-- The integers in an object are those in the values of its members. -/
theorem isSigned_object_iff {members : List (String × Json)} :
    IsSigned (.object members) ↔ ∀ member ∈ members, member.2.IsSigned := by
  constructor
  · intro h member hmember whole hwithin
    exact h whole (.member hmember hwithin)
  · intro h whole hwithin
    cases hwithin with
    | member hmember hwithin => exact h _ hmember whole hwithin

mutual

/-- Narrowing leaves alone exactly the values whose integers are all signed 64-bit ones. -/
theorem narrowed_eq_self_iff : (value : Json) → (value.narrowed = value ↔ value.IsSigned)
  | .integer value => by
    -- a rounded integer is no integer any more, whatever its value
    rw [isSigned_integer_iff, narrowed]
    split <;> simp_all
  | .array items => by
    rw [isSigned_array_iff, narrowed, Json.array.injEq]
    exact narrowedItems_eq_self_iff items
  | .object members => by
    rw [isSigned_object_iff, narrowed, Json.object.injEq]
    exact narrowedMembers_eq_self_iff members
  | .null => iff_of_true rfl fun _ h => nomatch h
  | .bool _ => iff_of_true rfl fun _ h => nomatch h
  | .decimal _ => iff_of_true rfl fun _ h => nomatch h
  | .text _ => iff_of_true rfl fun _ h => nomatch h

/-- Narrowing leaves items alone when it leaves each of them alone. -/
theorem narrowedItems_eq_self_iff :
    (items : List Json) → (narrowedItems items = items ↔ ∀ item ∈ items, item.IsSigned)
  | [] => by simp [narrowedItems]
  | item :: rest => by
    rw [narrowedItems, List.cons.injEq, narrowed_eq_self_iff item, narrowedItems_eq_self_iff rest,
      List.forall_mem_cons]

/-- Narrowing leaves members alone when it leaves each of their values alone. -/
theorem narrowedMembers_eq_self_iff :
    (members : List (String × Json)) →
      (narrowedMembers members = members ↔ ∀ member ∈ members, member.2.IsSigned)
  | [] => by simp [narrowedMembers]
  | (key, value) :: rest => by
    rw [narrowedMembers, List.cons.injEq, Prod.mk.injEq, narrowed_eq_self_iff value,
      narrowedMembers_eq_self_iff rest, List.forall_mem_cons]
    simp

end

end Json

namespace Value

mutual

/-- A JSON value comes back from a field value narrowed. -/
theorem toJson_ofJson : (value : Json) → (ofJson value).toJson = value.narrowed
  | .null => rfl
  | .bool _ => rfl
  | .integer value => by
    rw [ofJson, ofWhole, Json.narrowed]
    cases hsigned : value.toInt64? with
    | some signed =>
      have hfits : value.val < 2 ^ (63 : Nat) := by
        simp only [Whole.toInt64?] at hsigned
        split at hsigned
        · assumption
        · cases hsigned
      rw [if_pos hfits]
      show Json.integer (.ofInt64 signed) = _
      rw [Whole.ofInt64_of_toInt64? hsigned]
    | none =>
      have hlarge : ¬ value.val < 2 ^ (63 : Nat) := by
        intro h
        simp only [Whole.toInt64?, if_pos h] at hsigned
        cases hsigned
      rw [if_neg hlarge]
      rfl
  | .decimal _ => rfl
  | .text _ => rfl
  | .array items => by rw [ofJson, toJson, Json.narrowed, toJsonItems_ofJsonItems items]
  | .object members => by
    rw [ofJson, toJson, Json.narrowed, toJsonMembers_ofJsonMembers members]

/-- The items of an array come back narrowed. -/
theorem toJsonItems_ofJsonItems :
    (items : List Json) → toJsonItems (ofJsonItems items) = Json.narrowedItems items
  | [] => rfl
  | item :: rest => by
    rw [ofJsonItems, toJsonItems, Json.narrowedItems, toJson_ofJson item,
      toJsonItems_ofJsonItems rest]

/-- The members of an object come back narrowed. -/
theorem toJsonMembers_ofJsonMembers :
    (members : List (String × Json)) →
      toJsonMembers (ofJsonMembers members) = Json.narrowedMembers members
  | [] => rfl
  | (key, value) :: rest => by
    rw [ofJsonMembers, toJsonMembers, Json.narrowedMembers, toJson_ofJson value,
      toJsonMembers_ofJsonMembers rest]

end

/-- The field values of items are those of each of them. -/
theorem ofJsonItems_eq_map (items : List Json) : ofJsonItems items = items.map ofJson := by
  induction items with
  | nil => rfl
  | cons item rest ih => rw [ofJsonItems, ih, List.map_cons]

/-- Items that became field values one by one come back narrowed one by one. -/
theorem toJsonItems_map_ofJson (items : List Json) :
    toJsonItems (items.map ofJson) = items.map Json.narrowed := by
  rw [← ofJsonItems_eq_map, toJsonItems_ofJsonItems, Json.narrowedItems_eq_map]

/-- Values that are put behind others come back behind them. -/
theorem toJsonItems_append (first second : List Value) :
    toJsonItems (first ++ second) = toJsonItems first ++ toJsonItems second := by
  induction first with
  | nil => rfl
  | cons value rest ih => rw [List.cons_append, toJsonItems, ih, toJsonItems, List.cons_append]

/-- The value of a key among members is the field value of what the key has there. -/
theorem valueAt?_ofJsonMembers (key : String) (members : List (String × Json)) :
    valueAt? key (ofJsonMembers members) = (valueAt? key members).map ofJson := by
  induction members with
  | nil => rfl
  | cons member rest ih =>
    rw [ofJsonMembers, valueAt?, valueAt?, ih]
    split <;> rfl

/-- A field value is displayed as its JSON value is. -/
theorem display_toJson (value : Value) : value.toJson.display = value.display := by
  cases value with
  | real value => cases value <;> rfl
  | _ => rfl

/-- The field value of a JSON value is displayed as the narrowed value is. -/
theorem display_ofJson (value : Json) : (ofJson value).display = value.narrowed.display := by
  rw [← display_toJson, toJson_ofJson]

end Value

end CatalogSearch
