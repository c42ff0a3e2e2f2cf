import CatalogSearch.Json.Record

/-!
# What is read from JSON

Lists are read item by item. What is written item by item is read item by item too
(`mapM_map_eq_some`), in whatever order the items are listed (`exists_mapM_eq_some_of_perm`), and
what is read of a list comes from its items (`exists_mem_of_mem_mapM`). The same goes for the fields
of a record: each of them is read from a value that is given for it.
-/

namespace CatalogSearch

section

variable {α β γ : Type} {encode : α → β} {decode : β → Option γ} {arrive : α → γ}

/-- A list is read when its first item and the others are. -/
theorem mapM_cons_eq_some_iff {first : β} {rest : List β} {read : List γ} :
    (first :: rest).mapM decode = some read ↔ ∃ item, decode first = some item ∧
      ∃ items, rest.mapM decode = some items ∧ item :: items = read := by
  simp only [List.mapM_cons, Option.bind_eq_bind, Option.bind_eq_some_iff, Option.pure_def,
    Option.some.injEq]

/-- Written items are read item by item. -/
theorem mapM_map_eq_some (h : ∀ item, decode (encode item) = some (arrive item))
    (items : List α) : (items.map encode).mapM decode = some (items.map arrive) := by
  induction items with
  | nil => rfl
  | cons item rest ih => exact mapM_cons_eq_some_iff.2 ⟨_, h item, _, ih, rfl⟩

/-- What is read of items in another order is the same, in another order. -/
theorem exists_mapM_eq_some_of_perm {items others : List β} {read : List γ}
    (h : items.Perm others) (hread : items.mapM decode = some read) :
    ∃ reordered, others.mapM decode = some reordered ∧ read.Perm reordered := by
  induction h generalizing read with
  | nil => exact ⟨read, hread, .refl _⟩
  | cons item h ih =>
    obtain ⟨first, hfirst, rest, hrest, rfl⟩ := mapM_cons_eq_some_iff.1 hread
    obtain ⟨reordered, hreordered, hperm⟩ := ih hrest
    exact ⟨first :: reordered, mapM_cons_eq_some_iff.2 ⟨_, hfirst, _, hreordered, rfl⟩,
      hperm.cons first⟩
  | swap item other rest =>
    obtain ⟨second, hsecond, rest, hrest, rfl⟩ := mapM_cons_eq_some_iff.1 hread
    obtain ⟨first, hfirst, others, hothers, rfl⟩ := mapM_cons_eq_some_iff.1 hrest
    have hswapped := mapM_cons_eq_some_iff.2 ⟨_, hsecond, _, hothers, rfl⟩
    exact ⟨first :: second :: others, mapM_cons_eq_some_iff.2 ⟨_, hfirst, _, hswapped, rfl⟩,
      .swap _ _ _⟩
  | trans h h' ih ih' =>
    obtain ⟨middle, hmiddle, hperm⟩ := ih hread
    obtain ⟨reordered, hreordered, hperm'⟩ := ih' hmiddle
    exact ⟨reordered, hreordered, hperm.trans hperm'⟩

/-- What is read of a list comes from its items. -/
theorem exists_mem_of_mem_mapM {items : List β} {read : List γ}
    (h : items.mapM decode = some read) {item : γ} (hitem : item ∈ read) :
    ∃ value ∈ items, decode value = some item := by
  induction items generalizing read with
  | nil =>
    cases h
    cases hitem
  | cons first rest ih =>
    obtain ⟨head, hhead, tail, htail, rfl⟩ := mapM_cons_eq_some_iff.1 h
    rcases List.mem_cons.1 hitem with rfl | hitem
    · exact ⟨first, List.mem_cons_self, hhead⟩
    · obtain ⟨value, hvalue, hread⟩ := ih htail hitem
      exact ⟨value, List.mem_cons_of_mem _ hvalue, hread⟩

end

namespace Json

/-- The fields of a record are read from an object by their names. -/
theorem slots?_ofMembers (names : List String) (members : List (String × Json)) :
    (ofMembers members).slots? names = some (names.map fun name =>
      ((valueAt? name members.reverse).map Slot.given).getD .missing) := by
  simp only [ofMembers, slots?, ← OrderedMap.find?_ofList]
  rfl

variable {α : Type} {decode : Json → Option α}

/-- A field that must be given is read from the value that is given for it. -/
theorem Slot.exists_of_required? {slot : Slot} {read : α}
    (h : slot.required? decode = some read) : ∃ value, decode value = some read := by
  cases slot with
  | given value => exact ⟨value, h⟩
  | _ => cases h

/-- A value that may be null is read as null says or as the value says. -/
theorem decode_of_nullable? {value : Json} {read : α}
    (h : nullable? decode value = some (some read)) : decode value = some read := by
  unfold nullable? at h
  split at h
  · cases h
  · obtain ⟨other, hread, heq⟩ := Option.map_eq_some_iff.1 h
    cases heq
    exact hread

/-- A field that may be missing is read from the value that is given for it, if one is. -/
theorem Slot.exists_of_optional? {slot : Slot} {read : α}
    (h : slot.optional? decode = some (some read)) : ∃ value, decode value = some read := by
  cases slot with
  | given value => exact ⟨value, decode_of_nullable? h⟩
  | missing => cases h
  | beyond => cases h

/-- What is read of an array comes from its items. -/
theorem exists_of_mem_list? {value : Json} {read : List α}
    (h : value.list? decode = some read) {item : α} (hitem : item ∈ read) :
    ∃ value, decode value = some item := by
  cases value with
  | array items =>
    obtain ⟨value, -, hvalue⟩ := exists_mem_of_mem_mapM h hitem
    exact ⟨value, hvalue⟩
  | _ => cases h

/-- A double is read as a finite one. -/
theorem isFinite_of_double? {value : Json} {number : Double}
    (h : value.double? = some number) : number.isFinite = true := by
  obtain ⟨finite, -, rfl⟩ := Option.map_eq_some_iff.1 h
  rfl

end Json

end CatalogSearch
