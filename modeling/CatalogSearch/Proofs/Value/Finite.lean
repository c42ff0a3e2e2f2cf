import CatalogSearch.Proofs.Value.Edit
import CatalogSearch.Value.Codec

/-!
# From field values to JSON and back

JSON has no infinities and no non-number, so a field value that becomes a JSON value and is read
again has each such double replaced by null (`Value.ofJson_toJson`), at whatever depth it stands.
Nothing else changes: `Value.nulled_eq_self_iff` says that the values which come back as they were
are exactly the finite ones. What stands for a JSON value is finite (`Value.isFinite_ofJson`), and
it stays so when a text is put into it or removed from it.

On the wire a value is read by trying its kinds in order. This comes to the same
(`Value.read?_eq_ofJson`), so finite values survive being written and read there too.
-/

namespace CatalogSearch

namespace Value

/-- One value is part of another: it is that value, or part of one of its items or entries. -/
inductive Within (part : Value) : Value → Prop where
  | here : Within part part
  | item {item : Value} {items : List Value} :
      item ∈ items → Within part item → Within part (.list items)
  | entry {key : String} {value : Value} {entries : List (String × Value)} :
      (key, value) ∈ entries → Within part value → Within part (.map entries)

/-- The doubles in a value are all finite. -/
def IsFinite (value : Value) : Prop :=
  ∀ number : Double, Within (.real number) value → number.isFinite = true

/-- A double is part of itself only. -/
theorem isFinite_real_iff {number : Double} :
    IsFinite (.real number) ↔ number.isFinite = true := by
  constructor
  · intro h
    exact h number .here
  · intro h other hwithin
    cases hwithin
    exact h

/-- The doubles in a list are those in its items. -/
theorem isFinite_list_iff {items : List Value} :
    IsFinite (.list items) ↔ ∀ item ∈ items, item.IsFinite := by
  constructor
  · intro h item hitem number hwithin
    exact h number (.item hitem hwithin)
  · intro h number hwithin
    cases hwithin with
    | item hitem hwithin => exact h _ hitem number hwithin

/-- The doubles in a map are those in the values of its entries. -/
theorem isFinite_map_iff {entries : List (String × Value)} :
    IsFinite (.map entries) ↔ ∀ entry ∈ entries, entry.2.IsFinite := by
  constructor
  · intro h entry hentry number hwithin
    exact h number (.entry hentry hwithin)
  · intro h number hwithin
    cases hwithin with
    | entry hentry hwithin => exact h _ hentry number hwithin

/-- A text holds no double. -/
theorem isFinite_text (value : String) : IsFinite (.text value) := fun _ h => nomatch h

mutual

/-- A value with its doubles that are not finite replaced by null, at any depth. -/
def nulled : Value → Value
  | .real number => if number.isFinite then .real number else .null
  | .list items => .list (nulledItems items)
  | .map entries => .map (nulledEntries entries)
  | other => other

/-- Items with their doubles that are not finite replaced. -/
def nulledItems : List Value → List Value
  | [] => []
  | item :: rest => nulled item :: nulledItems rest

/-- Entries with the doubles in their values that are not finite replaced. -/
def nulledEntries : List (String × Value) → List (String × Value)
  | [] => []
  | (key, value) :: rest => (key, nulled value) :: nulledEntries rest

end

/-- Entries are replaced one by one, under their keys. -/
theorem nulledEntries_eq_map (entries : List (String × Value)) :
    nulledEntries entries = entries.map fun entry => (entry.1, entry.2.nulled) := by
  induction entries with
  | nil => rfl
  | cons entry rest ih => rw [nulledEntries, ih, List.map_cons]

mutual

/-- Replacing leaves alone exactly the finite values. -/
theorem nulled_eq_self_iff : (value : Value) → (value.nulled = value ↔ value.IsFinite)
  | .real number => by
    rw [isFinite_real_iff, nulled]
    split <;> simp_all
  | .list items => by
    rw [isFinite_list_iff, nulled, Value.list.injEq]
    exact nulledItems_eq_self_iff items
  | .map entries => by
    rw [isFinite_map_iff, nulled, Value.map.injEq]
    exact nulledEntries_eq_self_iff entries
  | .null => iff_of_true rfl fun _ h => nomatch h
  | .bool _ => iff_of_true rfl fun _ h => nomatch h
  | .integer _ => iff_of_true rfl fun _ h => nomatch h
  | .text value => iff_of_true rfl (isFinite_text value)

/-- Replacing leaves items alone when it leaves each of them alone. -/
theorem nulledItems_eq_self_iff :
    (items : List Value) → (nulledItems items = items ↔ ∀ item ∈ items, item.IsFinite)
  | [] => by simp [nulledItems]
  | item :: rest => by
    rw [nulledItems, List.cons.injEq, nulled_eq_self_iff item, nulledItems_eq_self_iff rest,
      List.forall_mem_cons]

/-- Replacing leaves entries alone when it leaves each of their values alone. -/
theorem nulledEntries_eq_self_iff :
    (entries : List (String × Value)) →
      (nulledEntries entries = entries ↔ ∀ entry ∈ entries, entry.2.IsFinite)
  | [] => by simp [nulledEntries]
  | (key, value) :: rest => by
    rw [nulledEntries, List.cons.injEq, Prod.mk.injEq, nulled_eq_self_iff value,
      nulledEntries_eq_self_iff rest, List.forall_mem_cons]
    simp

end

mutual

/-- A field value comes back from its JSON value without the doubles that are not finite. -/
theorem ofJson_toJson : (value : Value) → ofJson value.toJson = value.nulled
  | .null => rfl
  | .bool _ => rfl
  | .integer value => by
    rw [toJson, ofJson, ofWhole, Whole.toInt64?_ofInt64]
    rfl
  | .real number => by cases number <;> rfl
  | .text _ => rfl
  | .list items => by rw [toJson, ofJson, nulled, ofJsonItems_toJsonItems items]
  | .map entries => by rw [toJson, ofJson, nulled, ofJsonMembers_toJsonMembers entries]

/-- The items of a list come back without the doubles that are not finite. -/
theorem ofJsonItems_toJsonItems :
    (items : List Value) → ofJsonItems (toJsonItems items) = nulledItems items
  | [] => rfl
  | item :: rest => by
    rw [toJsonItems, ofJsonItems, nulledItems, ofJson_toJson item, ofJsonItems_toJsonItems rest]

/-- The entries of a map come back without the doubles that are not finite. -/
theorem ofJsonMembers_toJsonMembers :
    (entries : List (String × Value)) →
      ofJsonMembers (toJsonMembers entries) = nulledEntries entries
  | [] => rfl
  | (key, value) :: rest => by
    rw [toJsonMembers, ofJsonMembers, nulledEntries, ofJson_toJson value,
      ofJsonMembers_toJsonMembers rest]

end

/-- A finite value comes back from its JSON value as it was. -/
theorem ofJson_toJson_of_isFinite {value : Value} (h : value.IsFinite) :
    ofJson value.toJson = value := by
  rw [ofJson_toJson, (nulled_eq_self_iff value).2 h]

mutual

/-- What stands for a JSON value also stands for the narrowed one. -/
theorem ofJson_narrowed : (value : Json) → ofJson value.narrowed = ofJson value
  | .integer value => by
    rw [Json.narrowed]
    split
    · rfl
    · rename_i hlarge
      have hnone : value.toInt64? = none := if_neg hlarge
      rw [ofJson, ofJson, ofWhole, hnone]
  | .array items => by rw [Json.narrowed, ofJson, ofJson, ofJsonItems_narrowedItems items]
  | .object members => by
    rw [Json.narrowed, ofJson, ofJson, ofJsonMembers_narrowedMembers members]
  | .null => rfl
  | .bool _ => rfl
  | .decimal _ => rfl
  | .text _ => rfl

/-- What stands for items also stands for the narrowed ones. -/
theorem ofJsonItems_narrowedItems :
    (items : List Json) → ofJsonItems (Json.narrowedItems items) = ofJsonItems items
  | [] => rfl
  | item :: rest => by
    rw [Json.narrowedItems, ofJsonItems, ofJsonItems, ofJson_narrowed item,
      ofJsonItems_narrowedItems rest]

/-- What stands for members also stands for the narrowed ones. -/
theorem ofJsonMembers_narrowedMembers :
    (members : List (String × Json)) →
      ofJsonMembers (Json.narrowedMembers members) = ofJsonMembers members
  | [] => rfl
  | (key, value) :: rest => by
    rw [Json.narrowedMembers, ofJsonMembers, ofJsonMembers, ofJson_narrowed value,
      ofJsonMembers_narrowedMembers rest]

end

/-- What stands for a JSON value is finite. -/
theorem isFinite_ofJson (value : Json) : (ofJson value).IsFinite := by
  rw [← nulled_eq_self_iff]
  calc (ofJson value).nulled
      = ofJson (ofJson value).toJson := (ofJson_toJson _).symm
    _ = ofJson value.narrowed := by rw [toJson_ofJson]
    _ = ofJson value := ofJson_narrowed value

/-! ## Edits -/

/-- A finite value stays finite when a text is put into it. -/
theorem IsFinite.updated {current : Value} (h : current.IsFinite) (text : String)
    (mode : UpdateMode) : (current.updated text mode).IsFinite := by
  have htext := isFinite_text text
  cases current with
  | list items =>
    cases mode with
    | add =>
      refine isFinite_list_iff.2 fun item hitem => ?_
      rcases List.mem_append.1 hitem with hitem | hitem
      · exact isFinite_list_iff.1 h item hitem
      · rwa [List.mem_singleton.1 hitem]
    | overwrite => simpa [Value.updated, isFinite_list_iff] using htext
  | _ => cases mode <;> simp [Value.updated, isFinite_list_iff, h, htext]

/-- A finite value stays finite when a text is removed from it. -/
theorem IsFinite.removed {current value : Value} (h : current.IsFinite) {text : Option String}
    (hvalue : current.removed text = .ok value) : value.IsFinite := by
  cases removal_of_removed hvalue with
  | item =>
    -- what is left are items of the list
    refine isFinite_list_iff.2 fun other hother => isFinite_list_iff.1 h other ?_
    rcases List.mem_append.1 hother with hbefore | hafter
    · exact List.mem_append_left _ hbefore
    · exact List.mem_append_right _ (List.mem_cons_of_mem _ hafter)
  | items => exact isFinite_list_iff.2 fun _ hitem => nomatch hitem
  | single => exact isFinite_text ""

/-! ## The wire -/

mutual

/-- Reading a value by its kinds gives what stands for it. -/
theorem read?_eq_ofJson : (value : Json) → read? value = some (ofJson value)
  | .null => rfl
  | .bool _ => rfl
  | .integer value => by
    cases hsigned : value.toInt64? <;>
      simp [read?, readScalar?, readNull?, readInteger?, Json.bool?, Json.double?, Json.finite?,
        ofJson, ofWhole, hsigned]
  | .decimal _ => rfl
  | .text _ => rfl
  | .array items => by
    rw [read?, readItems?_eq_ofJsonItems items]
    rfl
  | .object members => by
    rw [read?, readMembers?_eq_ofJsonMembers members]
    rfl

/-- Reading items gives what stands for them. -/
theorem readItems?_eq_ofJsonItems :
    (items : List Json) → readItems? items = some (ofJsonItems items)
  | [] => rfl
  | item :: rest => by
    rw [readItems?, read?_eq_ofJson item, readItems?_eq_ofJsonItems rest]
    rfl

/-- Reading members gives what stands for them. -/
theorem readMembers?_eq_ofJsonMembers :
    (members : List (String × Json)) → readMembers? members = some (ofJsonMembers members)
  | [] => rfl
  | (key, value) :: rest => by
    rw [readMembers?, read?_eq_ofJson value, readMembers?_eq_ofJsonMembers rest]
    rfl

end

end Value

end CatalogSearch
