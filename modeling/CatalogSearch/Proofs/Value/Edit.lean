import CatalogSearch.Proofs.Value.Conversion
import CatalogSearch.Value.Edit

/-!
# What an edit leaves of a value

Edits are described on JSON, since that is what is read before an edit and written after it:
`Json.Updated` and `Json.Removed` say what becomes of a stored value, and which items of it stay.
`Value.updated_ofJson` and `Value.removed_ofJson` are the connection to the edits of field values.
What a field value cannot hold is lost on the way in, so the value that is edited is the narrowed
one.
-/

namespace CatalogSearch

namespace Json

/-- Arrays, as opposed to single values. -/
def isArray : Json → Bool
  | .array _ => true
  | _ => false

/-- A value before and after a text is put into it. Adding keeps all that was there, and puts the
text behind it. -/
inductive Updated (text : String) : UpdateMode → Json → Json → Prop where
  | append {items : List Json} :
      Updated text .add (.array items) (.array (items ++ [.text text]))
  | start : Updated text .add .null (.array [.text text])
  | join {single : Json} :
      single.isArray = false → single ≠ .null →
      Updated text .add single (.array [single, .text text])
  | replaceItems {items : List Json} :
      Updated text .overwrite (.array items) (.array [.text text])
  | replace {single : Json} : single.isArray = false → Updated text .overwrite single (.text text)

/-- A value before and after a text is removed from it. Removing a text from an array keeps all
items but one, which is the first that is displayed as the text. -/
inductive Removed : Option String → Json → Json → Prop where
  | item {text : String} {before after : List Json} {item : Json} :
      text ≠ "" → item.display = text → (∀ other ∈ before, other.display ≠ text) →
      Removed (some text) (.array (before ++ item :: after)) (.array (before ++ after))
  | items {text : Option String} {items : List Json} :
      text.getD "" = "" → Removed text (.array items) (.array [])
  | single {text : Option String} {single : Json} :
      single.isArray = false → Removed text single (.text "")

/-- An array is an array of some items. -/
theorem isArray_eq_true_iff {value : Json} :
    value.isArray = true ↔ ∃ items, value = .array items := by
  cases value <;> simp [isArray]

/-- Narrowing neither makes nor removes arrays. -/
@[simp] theorem isArray_narrowed (value : Json) : value.narrowed.isArray = value.isArray := by
  cases value with
  | integer value =>
    rw [narrowed]
    split <;> rfl
  | _ => rfl

/-- Only null is narrowed to null. -/
theorem narrowed_ne_null {value : Json} (h : value ≠ .null) : value.narrowed ≠ .null := by
  cases value with
  | integer value =>
    rw [narrowed]
    split <;> simp
  | null => exact absurd rfl h
  | _ => simp [narrowed]

end Json

namespace Value

/-- A removal takes the first item that is displayed as the text, and no other. -/
theorem removeFirst?_eq_some_iff {text : String} {items rest : List Value} :
    removeFirst? text items = some rest ↔
      ∃ before item after, items = before ++ item :: after ∧ item.display = text ∧
        (∀ other ∈ before, other.display ≠ text) ∧ rest = before ++ after := by
  induction items generalizing rest with
  | nil => simp [removeFirst?]
  | cons head tail ih =>
    by_cases h : head.display = text
    · rw [removeFirst?, if_pos h]
      constructor
      · intro hrest
        cases hrest
        exact ⟨[], head, tail, rfl, h, by simp, rfl⟩
      · rintro ⟨before, item, after, hitems, -, hbefore, rfl⟩
        cases before with
        | nil =>
          cases hitems
          rfl
        | cons first others =>
          cases hitems
          exact absurd h (hbefore _ List.mem_cons_self)
    · rw [removeFirst?, if_neg h, Option.map_eq_some_iff]
      constructor
      · rintro ⟨others, hothers, rfl⟩
        obtain ⟨before, item, after, rfl, hitem, hbefore, rfl⟩ := ih.1 hothers
        exact ⟨head :: before, item, after, rfl, hitem, List.forall_mem_cons.2 ⟨h, hbefore⟩, rfl⟩
      · rintro ⟨before, item, after, hitems, hitem, hbefore, rfl⟩
        cases before with
        | nil =>
          cases hitems
          exact absurd hitem h
        | cons first others =>
          cases hitems
          exact ⟨others ++ after, ih.2 ⟨others, item, after, rfl, hitem,
            (List.forall_mem_cons.1 hbefore).2, rfl⟩, rfl⟩

/-- No item can be removed when none is displayed as the text. -/
theorem removeFirst?_eq_none_iff {text : String} {items : List Value} :
    removeFirst? text items = none ↔ ∀ item ∈ items, item.display ≠ text := by
  induction items with
  | nil => simp [removeFirst?]
  | cons item rest ih =>
    rw [removeFirst?, List.forall_mem_cons]
    by_cases h : item.display = text
    · simp [h]
    · simp [h, ih]

/-- Adding to a single value other than null makes a list of that value and the text. -/
theorem updated_add_of_single {current : Value} {text : String}
    (hlist : ∀ items, current ≠ .list items) (hnull : current ≠ .null) :
    current.updated text .add = .list [current, .text text] := by
  cases current with
  | list items => exact absurd rfl (hlist items)
  | null => exact absurd rfl hnull
  | _ => rfl

/-- Overwriting a single value makes it the text. -/
theorem updated_overwrite_of_single {current : Value} {text : String}
    (hlist : ∀ items, current ≠ .list items) : current.updated text .overwrite = .text text := by
  cases current with
  | list items => exact absurd rfl (hlist items)
  | _ => rfl

/-- Removing anything from a single value clears it. -/
theorem removed_of_single {current : Value} {text : Option String}
    (hlist : ∀ items, current ≠ .list items) : current.removed text = .ok (.text "") := by
  cases current with
  | list items => exact absurd rfl (hlist items)
  | _ => rfl

/-- Removing no text from a list, or the empty one, leaves no items. -/
theorem removed_list_of_empty {items : List Value} {text : Option String}
    (h : text.getD "" = "") : (list items).removed text = .ok (.list []) := by
  cases text with
  | none => rfl
  | some text =>
    have hempty : text.isEmpty = true := String.isEmpty_iff.2 h
    rw [removed, hempty]
    rfl

/-- Removing a text from a list leaves the items without the first that is displayed as it. -/
theorem removed_list_eq_ok_iff {items : List Value} {text : String} {value : Value}
    (h : text ≠ "") :
    (list items).removed (some text) = .ok value ↔
      ∃ rest, removeFirst? text items = some rest ∧ value = .list rest := by
  have hempty : text.isEmpty = false := by simpa using h
  cases hrest : removeFirst? text items <;> simp [removed, hempty, hrest, eq_comm]

/-- Removing a text from a list fails when no item is displayed as it. -/
theorem removed_list_eq_error {items : List Value} {text : String} (h : text ≠ "")
    (hnone : ∀ item ∈ items, item.display ≠ text) :
    (list items).removed (some text) = .error ⟨text⟩ := by
  have hempty : text.isEmpty = false := by simpa using h
  simp [removed, hempty, removeFirst?_eq_none_iff.2 hnone]

/-- A value before and after a text is removed from it: a list loses the first item that is
displayed as the text, or every item when there is no text to look for, and a single value is
cleared. -/
inductive Removal : Option String → Value → Value → Prop where
  | item {text : String} {before after : List Value} {item : Value} :
      text ≠ "" → item.display = text → (∀ other ∈ before, other.display ≠ text) →
      Removal (some text) (.list (before ++ item :: after)) (.list (before ++ after))
  | items {text : Option String} {items : List Value} :
      text.getD "" = "" → Removal text (.list items) (.list [])
  | single {text : Option String} {current : Value} :
      (∀ items, current ≠ .list items) → Removal text current (.text "")

/-- What a removal leaves. -/
theorem removal_of_removed {current value : Value} {text : Option String}
    (h : current.removed text = .ok value) : Removal text current value := by
  by_cases hlist : ∃ items, current = .list items
  · obtain ⟨items, rfl⟩ := hlist
    by_cases hempty : text.getD "" = ""
    · rw [removed_list_of_empty hempty] at h
      cases h
      exact .items hempty
    · obtain ⟨wanted, rfl⟩ : ∃ wanted, text = some wanted := by
        cases text with
        | none => exact absurd rfl hempty
        | some wanted => exact ⟨wanted, rfl⟩
      obtain ⟨rest, hrest, rfl⟩ := (removed_list_eq_ok_iff hempty).1 h
      obtain ⟨before, item, after, rfl, hitem, hbefore, rfl⟩ := removeFirst?_eq_some_iff.1 hrest
      exact .item hempty hitem hbefore
  · rw [removed_of_single (not_exists.1 hlist)] at h
    cases h
    exact .single (not_exists.1 hlist)

/-- The field value of a JSON value that is no array is no list. -/
theorem ofJson_ne_list {stored : Json} (h : stored.isArray = false) (items : List Value) :
    ofJson stored ≠ .list items := by
  intro heq
  -- a list is written as an array, and what is written is the narrowed value
  have hback := congrArg toJson heq
  rw [toJson_ofJson, toJson] at hback
  have harray := congrArg Json.isArray hback
  rw [Json.isArray_narrowed, h] at harray
  cases harray

/-- The field value of a JSON value other than null is not null. -/
theorem ofJson_ne_null {stored : Json} (h : stored ≠ .null) : ofJson stored ≠ .null := by
  intro heq
  have hback := congrArg toJson heq
  rw [toJson_ofJson, toJson] at hback
  exact Json.narrowed_ne_null h hback

/-- Putting a text into the field value of a stored value puts it into that value, narrowed. -/
theorem updated_ofJson (stored : Json) (text : String) (mode : UpdateMode) :
    Json.Updated text mode stored.narrowed ((ofJson stored).updated text mode).toJson := by
  cases harray : stored.isArray with
  | true =>
    obtain ⟨items, rfl⟩ := Json.isArray_eq_true_iff.1 harray
    rw [Json.narrowed, Json.narrowedItems_eq_map, ofJson, ofJsonItems_eq_map]
    cases mode with
    | add =>
      rw [updated, toJson, toJsonItems_append, toJsonItems_map_ofJson]
      exact .append
    | overwrite => exact .replaceItems
  | false =>
    have hsingle : stored.narrowed.isArray = false := by rw [Json.isArray_narrowed, harray]
    have hlist := ofJson_ne_list harray
    cases mode with
    | add =>
      by_cases hnull : stored = .null
      · subst hnull
        exact .start
      · rw [updated_add_of_single hlist (ofJson_ne_null hnull)]
        show Json.Updated text .add _ (.array [(ofJson stored).toJson, .text text])
        rw [toJson_ofJson]
        exact .join hsingle (Json.narrowed_ne_null hnull)
    | overwrite =>
      rw [updated_overwrite_of_single hlist]
      exact .replace hsingle

/-- The field value of a JSON value is a list only if that value is an array, of whose items it is
made one by one. -/
theorem exists_items_of_ofJson_eq_list {stored : Json} {values : List Value}
    (h : ofJson stored = .list values) :
    ∃ items, stored = .array items ∧ items.map ofJson = values := by
  cases harray : stored.isArray with
  | false => exact absurd h (ofJson_ne_list harray values)
  | true =>
    obtain ⟨items, rfl⟩ := Json.isArray_eq_true_iff.1 harray
    rw [ofJson, ofJsonItems_eq_map, Value.list.injEq] at h
    exact ⟨items, rfl, h⟩

/-- Removing a text from the field value of a stored value removes it from that value, narrowed. -/
theorem removed_ofJson {stored : Json} {text : Option String} {value : Value}
    (h : (ofJson stored).removed text = .ok value) :
    Json.Removed text stored.narrowed value.toJson := by
  generalize hcurrent : ofJson stored = current at h
  cases removal_of_removed h with
  | item hwanted hitem hbefore =>
    -- the list was made item by item, so its split is that of the stored items
    obtain ⟨items, rfl, hitems⟩ := exists_items_of_ofJson_eq_list hcurrent
    obtain ⟨first, others, rfl, rfl, hothers⟩ := List.map_eq_append_iff.1 hitems
    obtain ⟨found, last, rfl, rfl, rfl⟩ := List.map_eq_cons_iff.1 hothers
    rw [Json.narrowed, Json.narrowedItems_eq_map, toJson, ← List.map_append,
      toJsonItems_map_ofJson, List.map_append, List.map_append, List.map_cons]
    refine .item hwanted ?_ ?_
    · rw [← display_ofJson, hitem]
    · intro shown hshown
      obtain ⟨other, hother, rfl⟩ := List.mem_map.1 hshown
      rw [← display_ofJson]
      exact hbefore _ (List.mem_map_of_mem hother)
  | items hempty =>
    obtain ⟨items, rfl, -⟩ := exists_items_of_ofJson_eq_list hcurrent
    exact .items hempty
  | single hlist =>
    refine .single ?_
    rw [Json.isArray_narrowed]
    cases harray : stored.isArray with
    | false => rfl
    | true =>
      obtain ⟨items, rfl⟩ := Json.isArray_eq_true_iff.1 harray
      exact absurd hcurrent.symm (hlist _)

end Value

end CatalogSearch
