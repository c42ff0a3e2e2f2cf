import CatalogSearch.Proofs.Double.Nearest
import CatalogSearch.Proofs.Json.Printer
import CatalogSearch.Proofs.Value.Finite

/-!
# Field values and JSON, back and forth

JSON has integers that a field value cannot hold, and a field value has doubles that JSON cannot
hold. `Value.conversions_lose` says that these are all that is lost between the two, in either
direction: the integers beyond the signed 64-bit ones become their nearest doubles, and the doubles
that are not finite become null.

A field value is read from JSON by conversion or by trying its kinds in order, and written by
conversion or directly. `Value.read?_eq_findSome?` says that reading is the rule of the first kind
that accepts, and `Value.codec_agrees` that both ways are the same in either direction, for every
value. The text that shows a value is the one that writes it, unless the value is a text itself.
-/

namespace CatalogSearch.Value

/-! ## There and back -/

/-- Converting a second time changes nothing more. -/
theorem toJson_ofJson_toJson_ofJson (value : Json) :
    (ofJson (ofJson value).toJson).toJson = (ofJson value).toJson := by
  rw [toJson_ofJson value, ofJson_narrowed, toJson_ofJson]

/-- A JSON value comes back from the field value that stands for it with each integer beyond the
signed 64-bit ones replaced by the nearest double, at any depth, and as it was exactly when there is
none; coming back a second time changes nothing more. A field value comes back from its JSON value
with each double that is not finite replaced by null, at any depth, and as it was exactly when there
is none. -/
theorem conversions_lose :
    (∀ json : Json, ((ofJson json).toJson = json ↔ json.IsSigned) ∧
      (ofJson json).toJson = json.narrowed ∧
      (ofJson (ofJson json).toJson).toJson = (ofJson json).toJson) ∧
    (∀ whole : Whole, whole.toFinite.Rounds whole.val) ∧
    ∀ value : Value, (ofJson value.toJson = value ↔ value.IsFinite) ∧
      ofJson value.toJson = value.nulled := by
  refine ⟨fun json => ⟨?_, toJson_ofJson json, toJson_ofJson_toJson_ofJson json⟩,
    Whole.rounds_toFinite, fun value => ⟨?_, ofJson_toJson value⟩⟩
  · rw [toJson_ofJson]
    exact Json.narrowed_eq_self_iff json
  · rw [ofJson_toJson]
    exact nulled_eq_self_iff value

/-! ## Reading -/

/-- The kinds of values in the order in which they are tried, each as what it reads. -/
def readers : List (Json → Option Value) :=
  [fun json => (readNull? json).map fun _ => .null,
   fun json => json.bool?.map .bool,
   fun json => (readInteger? json).map .integer,
   fun json => json.double?.map .real,
   fun json => json.text?.map .text,
   fun json => (json.list? read?).map .list,
   fun json => (json.members? read?).map .map]

/-- Items are read one by one. -/
theorem readItems?_eq_mapM (items : List Json) : readItems? items = items.mapM read? := by
  induction items with
  | nil => rfl
  | cons item rest ih => rw [readItems?, List.mapM_cons, ih]

/-- Members are read one by one, under their keys. -/
theorem readMembers?_eq_mapM (members : List (String × Json)) :
    readMembers? members = members.mapM fun member => (read? member.2).map (member.1, ·) := by
  induction members with
  | nil => rfl
  | cons member rest ih =>
    rw [readMembers?, List.mapM_cons, ih]
    cases read? member.2 <;> rfl

/-- What is read is what the first kind reads that accepts the JSON value. -/
theorem read?_eq_findSome? (json : Json) :
    read? json = readers.findSome? fun read => read json := by
  cases json with
  | array items =>
    have hlist : (Json.array items).list? read? = items.mapM read? := rfl
    rw [read?, readItems?_eq_mapM]
    simp only [readers, List.findSome?_cons, hlist]
    cases items.mapM read? <;> rfl
  | object members =>
    have hmembers : (Json.object members).members? read? =
        members.mapM fun member => (read? member.2).map (member.1, ·) := rfl
    rw [read?, readMembers?_eq_mapM]
    simp only [readers, List.findSome?_cons, hmembers]
    cases members.mapM fun member => (read? member.2).map (member.1, ·) <;> rfl
  | integer value =>
    have hinteger : readInteger? (.integer value) = value.toInt64? := rfl
    simp only [readers, List.findSome?_cons, read?, readScalar?, hinteger]
    cases value.toInt64? <;> rfl
  | _ => rfl

/-! ## Writing -/

mutual

/-- A value is written as its JSON value is. -/
theorem write_eq_chars : (value : Value) → value.write = value.toJson.chars
  | .null => rfl
  | .bool true => rfl
  | .bool false => rfl
  | .integer _ => rfl
  | .real number => by cases number <;> rfl
  | .text _ => rfl
  | .list items => by rw [write, toJson, Json.chars, writeItems_eq_itemChars items]
  | .map entries => by rw [write, toJson, Json.chars, writeEntries_eq_memberChars entries]

/-- The items of a list are written as those of its array are. -/
theorem writeItems_eq_itemChars :
    (items : List Value) → writeItems items = Json.itemChars (toJsonItems items)
  | [] => rfl
  | [item] => write_eq_chars item
  | item :: next :: rest => by
    show write item ++ ',' :: writeItems (next :: rest) = _
    rw [write_eq_chars item, writeItems_eq_itemChars (next :: rest)]
    rfl

/-- The entries of a map are written as the members of its object are. -/
theorem writeEntries_eq_memberChars :
    (entries : List (String × Value)) →
      writeEntries entries = Json.memberChars (toJsonMembers entries)
  | [] => rfl
  | [(key, value)] => by
    show Json.quoted key ++ ':' :: write value = _
    rw [write_eq_chars value]
    rfl
  | (key, value) :: next :: rest => by
    show Json.quoted key ++ ':' :: write value ++ ',' :: writeEntries (next :: rest) = _
    rw [write_eq_chars value, writeEntries_eq_memberChars (next :: rest)]
    rfl

end

/-- The text that writes a value is the compact text of its JSON value. -/
theorem serialize_eq_compact (value : Value) : value.serialize = value.toJson.compact := by
  rw [serialize, write_eq_chars, Json.compact]

/-- A value is shown by the text that writes it, unless it is a text, which is written longer than
it is. -/
theorem display_eq_serialize_iff (value : Value) :
    value.display = value.serialize ↔ ∀ text, value ≠ .text text := by
  cases value with
  | text shown =>
    refine iff_of_false (fun h => ?_) (fun h => h shown rfl)
    have hchars : shown.toList = Json.quoted shown := by
      calc shown.toList = (serialize (.text shown)).toList := congrArg String.toList h
        _ = Json.quoted shown := String.toList_ofList
    have hlength := congrArg List.length hchars
    exact absurd hlength (Nat.ne_of_lt (Json.length_lt_length_quoted shown))
  | _ =>
    rw [serialize_eq_compact]
    exact iff_of_true rfl fun _ h => nomatch h

/-- Reading a value by the first of its kinds that accepts the JSON value succeeds for every one and
gives the value that stands for it. Writing a value gives the compact text of its JSON value, for
every value, and this is also the text that shows it exactly when the value is not a text. -/
theorem codec_agrees :
    (∀ json, read? json = readers.findSome? fun read => read json) ∧
    (∀ json, read? json = some (ofJson json)) ∧
    ∀ value : Value, value.serialize = value.toJson.compact ∧
      (value.display = value.serialize ↔ ∀ text, value ≠ .text text) :=
  ⟨read?_eq_findSome?, read?_eq_ofJson, fun value =>
    ⟨serialize_eq_compact value, display_eq_serialize_iff value⟩⟩

end CatalogSearch.Value
