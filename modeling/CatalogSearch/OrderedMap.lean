/-!
# Ordered maps

A finite map kept as the list of its entries in increasing order of keys, each key once. The view
of a map is `find?`: `find?_empty`, `find?_insert`, `find?_ofList` and `find?_ofEntries` say what
each operation does to it, and `ext_find?` that two maps with the same view are equal. The entries
of a map make that map in whatever order they are listed: `ofList_of_perm`. A list that is
ascending already is the list of entries of its map: `entries_ofList`.
-/

namespace CatalogSearch

universe u v w

variable {κ : Type u} {α : Type v} {β : Type w} [Ord κ]

/-- The entries are in strictly increasing order of keys. -/
def Ascending (entries : List (κ × α)) : Prop :=
  entries.Pairwise fun a b => compare a.1 b.1 = .lt

/-- Insert an entry into an ascending list, in place of an entry with the same key. -/
def insertAscending (key : κ) (value : α) : List (κ × α) → List (κ × α)
  | [] => [(key, value)]
  | (k, v) :: rest =>
    match compare key k with
    | .lt => (key, value) :: (k, v) :: rest
    | .eq => (key, value) :: rest
    | .gt => (k, v) :: insertAscending key value rest

/-- The value of the first entry with a key. -/
def valueAt? (key : κ) : List (κ × α) → Option α
  | [] => none
  | (k, v) :: rest => if compare key k = .eq then some v else valueAt? key rest

/-- The keys after an insertion are the new one and those from before. -/
theorem mem_insertAscending {key : κ} {value : α} {entry : κ × α} {entries : List (κ × α)}
    (h : entry ∈ insertAscending key value entries) :
    entry = (key, value) ∨ entry ∈ entries := by
  induction entries with
  | nil => simpa [insertAscending] using h
  | cons head rest ih =>
    obtain ⟨k, v⟩ := head
    simp only [insertAscending] at h
    split at h
    · simpa using h
    · rcases List.mem_cons.1 h with h | h
      · exact Or.inl h
      · exact Or.inr (List.mem_cons_of_mem _ h)
    · rcases List.mem_cons.1 h with h | h
      · exact Or.inr (h ▸ List.mem_cons_self)
      · exact (ih h).imp id (List.mem_cons_of_mem _)

/-- Insertion keeps a list ascending. -/
theorem Ascending.insert [Std.TransOrd κ] [Std.LawfulEqOrd κ] {entries : List (κ × α)}
    (h : Ascending entries) (key : κ) (value : α) :
    Ascending (insertAscending key value entries) := by
  induction entries with
  | nil => simp [insertAscending, Ascending]
  | cons head rest ih =>
    obtain ⟨k, v⟩ := head
    obtain ⟨hhead, hrest⟩ := List.pairwise_cons.1 h
    simp only [insertAscending]
    split
    · rename_i hlt
      refine List.pairwise_cons.2 ⟨fun entry hentry => ?_, h⟩
      rcases List.mem_cons.1 hentry with rfl | hentry
      · exact hlt
      · exact Std.TransCmp.lt_trans hlt (hhead entry hentry)
    · rename_i heq
      have hkey : key = k := Std.compare_eq_iff_eq.1 heq
      subst hkey
      exact List.pairwise_cons.2 ⟨hhead, hrest⟩
    · rename_i hgt
      refine List.pairwise_cons.2 ⟨fun entry hentry => ?_, ih hrest⟩
      rcases mem_insertAscending hentry with rfl | hentry
      · exact Std.OrientedCmp.gt_iff_lt.1 hgt
      · exact hhead entry hentry

/-- After an insertion, the new key has the new value and every other key the one it had. -/
theorem valueAt?_insertAscending [Std.LawfulEqOrd κ] (key other : κ) (value : α)
    (entries : List (κ × α)) :
    valueAt? other (insertAscending key value entries) =
      if compare other key = .eq then some value else valueAt? other entries := by
  induction entries with
  | nil => simp [insertAscending, valueAt?]
  | cons head rest ih =>
    obtain ⟨k, v⟩ := head
    simp only [insertAscending]
    split
    · simp [valueAt?]
    · rename_i heq
      have hkey : key = k := Std.compare_eq_iff_eq.1 heq
      subst hkey
      simp only [valueAt?]
      split <;> rfl
    · rename_i hgt
      simp only [valueAt?, ih]
      split
      · rename_i hk
        have hother : other = k := Std.compare_eq_iff_eq.1 hk
        subst hother
        rw [if_neg]
        intro heq
        have : other = key := Std.compare_eq_iff_eq.1 heq
        subst this
        simp at hgt
      · rfl

/-- An insertion leaves the entries with other keys alone. -/
theorem filter_insertAscending [Std.LawfulEqOrd κ] [DecidableEq κ] (key : κ) (value : α)
    (entries : List (κ × α)) :
    (insertAscending key value entries).filter (fun entry => entry.1 ≠ key) =
      entries.filter fun entry => entry.1 ≠ key := by
  induction entries with
  | nil => simp [insertAscending]
  | cons head rest ih =>
    obtain ⟨k, v⟩ := head
    simp only [insertAscending]
    split
    · simp
    · rename_i heq
      have hkey : key = k := Std.compare_eq_iff_eq.1 heq
      subst hkey
      simp
    · rw [List.filter_cons, List.filter_cons, ih]

/-- A key smaller than all keys of a list has no value in it. -/
theorem valueAt?_eq_none_of_lt {key : κ} {entries : List (κ × α)}
    (h : ∀ entry ∈ entries, compare key entry.1 = .lt) : valueAt? key entries = none := by
  induction entries with
  | nil => rfl
  | cons head rest ih =>
    have hhead := h head List.mem_cons_self
    simp only [valueAt?, hhead]
    exact ih fun entry hentry => h entry (List.mem_cons_of_mem _ hentry)

/-- A key stands in a list when it has a value there. -/
theorem mem_map_fst_iff [Std.LawfulEqOrd κ] {key : κ} {entries : List (κ × α)} :
    key ∈ entries.map Prod.fst ↔ (valueAt? key entries).isSome := by
  induction entries with
  | nil => simp [valueAt?]
  | cons head rest ih =>
    obtain ⟨k, v⟩ := head
    rw [List.map_cons, List.mem_cons, ih, valueAt?]
    by_cases h : key = k
    · simp [h]
    · have hne : ¬ compare key k = .eq := fun heq => h (Std.compare_eq_iff_eq.1 heq)
      simp [h, hne]

/-- Two ascending lists that agree on every key are equal. -/
theorem Ascending.ext [Std.TransOrd κ] [Std.LawfulEqOrd κ] {left right : List (κ × α)}
    (hleft : Ascending left) (hright : Ascending right)
    (h : ∀ key, valueAt? key left = valueAt? key right) : left = right := by
  induction left generalizing right with
  | nil =>
    cases right with
    | nil => rfl
    | cons head rest => simpa [valueAt?] using h head.1
  | cons head rest ih =>
    obtain ⟨k, v⟩ := head
    obtain ⟨hk, hrest⟩ := List.pairwise_cons.1 hleft
    cases right with
    | nil => simpa [valueAt?] using h k
    | cons head' rest' =>
      obtain ⟨k', v'⟩ := head'
      obtain ⟨hk', hrest'⟩ := List.pairwise_cons.1 hright
      have hkey : k = k' := by
        cases hcmp : compare k k' with
        | eq => exact Std.compare_eq_iff_eq.1 hcmp
        | lt =>
          have hnone : valueAt? k rest' = none := valueAt?_eq_none_of_lt
            fun entry hentry => Std.TransCmp.lt_trans hcmp (hk' entry hentry)
          simpa [valueAt?, hcmp, hnone] using h k
        | gt =>
          have hlt := Std.OrientedCmp.gt_iff_lt.1 hcmp
          have hnone : valueAt? k' rest = none := valueAt?_eq_none_of_lt
            fun entry hentry => Std.TransCmp.lt_trans hlt (hk entry hentry)
          simpa [valueAt?, hlt, hnone] using h k'
      subst hkey
      have hvalue : v = v' := by simpa [valueAt?] using h k
      subst hvalue
      congr 1
      refine ih hrest hrest' fun key => ?_
      by_cases heq : compare key k = .eq
      · have : key = k := Std.compare_eq_iff_eq.1 heq
        subst this
        rw [valueAt?_eq_none_of_lt hk, valueAt?_eq_none_of_lt hk']
      · have := h key
        simpa [valueAt?, heq] using this

/-- Each key of an ascending list stands there once. -/
theorem Ascending.distinct [Std.LawfulEqOrd κ] {entries : List (κ × α)} (h : Ascending entries) :
    entries.Pairwise fun a b => a.1 ≠ b.1 := by
  refine List.Pairwise.imp ?_ h
  intro a b hlt heq
  rw [heq, Std.compare_self] at hlt
  cases hlt

/-- In a list that has each key once, a key has the value that it stands with. -/
theorem valueAt?_eq_some_iff [Std.LawfulEqOrd κ] {entries : List (κ × α)}
    (h : entries.Pairwise fun a b => a.1 ≠ b.1) {key : κ} {value : α} :
    valueAt? key entries = some value ↔ (key, value) ∈ entries := by
  induction entries with
  | nil => simp [valueAt?]
  | cons head rest ih =>
    obtain ⟨k, v⟩ := head
    obtain ⟨hhead, hrest⟩ := List.pairwise_cons.1 h
    simp only [valueAt?, Std.compare_eq_iff_eq, List.mem_cons, ← ih hrest, Prod.mk.injEq]
    by_cases hkey : key = k
    · -- the key does not stand in the rest again
      subst hkey
      have hnone : ¬ valueAt? key rest = some value := fun hvalue =>
        hhead _ ((ih hrest).1 hvalue) rfl
      simp [hnone, eq_comm]
    · simp [hkey]

/-- A finite map with its entries in increasing order of keys. -/
structure OrderedMap (κ : Type u) (α : Type v) [Ord κ] where
  entries : List (κ × α)
  ascending : Ascending entries

namespace OrderedMap

/-- The map without entries. -/
def empty : OrderedMap κ α := ⟨[], List.Pairwise.nil⟩

/-- The value of a key. -/
def find? (map : OrderedMap κ α) (key : κ) : Option α := valueAt? key map.entries

/-- The keys, in increasing order. -/
def keys (map : OrderedMap κ α) : List κ := map.entries.map Prod.fst

/-- Apply a function to every value. -/
def map (f : α → β) (map : OrderedMap κ α) : OrderedMap κ β where
  entries := map.entries.map fun entry => (entry.1, f entry.2)
  ascending := by simpa [Ascending, List.pairwise_map] using map.ascending

/-- Two maps with the same entries are equal. -/
@[ext] theorem ext {left right : OrderedMap κ α} (h : left.entries = right.entries) :
    left = right := by
  cases left
  cases right
  cases h
  rfl

/-- Bind a key to a value, in place of the value it has. -/
def insert [Std.TransOrd κ] [Std.LawfulEqOrd κ] (map : OrderedMap κ α) (key : κ) (value : α) :
    OrderedMap κ α :=
  ⟨insertAscending key value map.entries, map.ascending.insert key value⟩

/-- The map of a list of entries; of several values for a key, the last one counts. -/
def ofList [Std.TransOrd κ] [Std.LawfulEqOrd κ] (entries : List (κ × α)) : OrderedMap κ α :=
  entries.foldl (fun map entry => map.insert entry.1 entry.2) empty

/-- The map of a list of entries; of several values for a key, the first one counts. -/
def ofEntries [Std.TransOrd κ] [Std.LawfulEqOrd κ] (entries : List (κ × α)) : OrderedMap κ α :=
  entries.foldr (fun entry map => map.insert entry.1 entry.2) empty

/-- No key has a value in the map without entries. -/
@[simp] theorem find?_empty (key : κ) : (empty : OrderedMap κ α).find? key = none := rfl

/-- Insertion gives the key its value and leaves the others alone. -/
theorem find?_insert [Std.TransOrd κ] [Std.LawfulEqOrd κ] (map : OrderedMap κ α)
    (key other : κ) (value : α) :
    (map.insert key value).find? other =
      if compare other key = .eq then some value else map.find? other :=
  valueAt?_insertAscending key other value map.entries

/-- Inserting entries gives each key the first value listed for it, and leaves the others alone. -/
theorem find?_foldr_insert [Std.TransOrd κ] [Std.LawfulEqOrd κ] (map : OrderedMap κ α)
    (entries : List (κ × α)) (key : κ) :
    (entries.foldr (fun entry map => map.insert entry.1 entry.2) map).find? key =
      (valueAt? key entries).or (map.find? key) := by
  induction entries with
  | nil => rfl
  | cons entry rest ih =>
    rw [List.foldr_cons, find?_insert, valueAt?, ih]
    split <;> rfl

/-- A map of entries gives each key the first value listed for it. -/
theorem find?_ofEntries [Std.TransOrd κ] [Std.LawfulEqOrd κ] (entries : List (κ × α)) (key : κ) :
    (ofEntries entries).find? key = valueAt? key entries := by
  rw [ofEntries, find?_foldr_insert, find?_empty, Option.or_none]

/-- A map of a list gives each key the last value listed for it. -/
theorem find?_ofList [Std.TransOrd κ] [Std.LawfulEqOrd κ] (entries : List (κ × α)) (key : κ) :
    (ofList entries).find? key = valueAt? key entries.reverse := by
  rw [← find?_ofEntries, ofEntries, ofList, List.foldr_reverse]

/-- Two maps in which every key has the same value are equal. -/
theorem ext_find? [Std.TransOrd κ] [Std.LawfulEqOrd κ] {left right : OrderedMap κ α}
    (h : ∀ key, left.find? key = right.find? key) :
    left = right :=
  OrderedMap.ext (left.ascending.ext right.ascending h)

/-- A key has the value that it stands with among the entries. -/
theorem find?_eq_some_iff [Std.LawfulEqOrd κ] {map : OrderedMap κ α} {key : κ} {value : α} :
    map.find? key = some value ↔ (key, value) ∈ map.entries :=
  valueAt?_eq_some_iff map.ascending.distinct

/-- The map of a list that has each key once has the entries of that list. -/
theorem mem_entries_ofList [Std.TransOrd κ] [Std.LawfulEqOrd κ] {entries : List (κ × α)}
    (h : entries.Pairwise fun a b => a.1 ≠ b.1) {entry : κ × α} :
    entry ∈ (ofList entries).entries ↔ entry ∈ entries := by
  have hreverse : entries.reverse.Pairwise fun a b => a.1 ≠ b.1 :=
    List.pairwise_reverse.2 (h.imp Ne.symm)
  rw [← find?_eq_some_iff, find?_ofList, valueAt?_eq_some_iff hreverse, List.mem_reverse]

/-- The map of a list that has each key once has the entries of that list, in order. -/
theorem perm_entries_ofList [Std.TransOrd κ] [Std.LawfulEqOrd κ] {entries : List (κ × α)}
    (h : entries.Pairwise fun a b => a.1 ≠ b.1) : (ofList entries).entries.Perm entries := by
  have hnodup : ∀ {list : List (κ × α)}, (list.Pairwise fun a b => a.1 ≠ b.1) → list.Nodup :=
    fun hlist => hlist.imp fun hne heq => hne (congrArg Prod.fst heq)
  exact (List.perm_ext_iff_of_nodup (hnodup (ofList entries).ascending.distinct) (hnodup h)).2
    fun _ => mem_entries_ofList h

/-- The entries of a map make that map, in whatever order they are listed. -/
theorem ofList_of_perm [Std.TransOrd κ] [Std.LawfulEqOrd κ] {entries : List (κ × α)}
    {map : OrderedMap κ α} (h : entries.Perm map.entries) : ofList entries = map := by
  have hdistinct : entries.Pairwise fun a b => a.1 ≠ b.1 :=
    h.symm.pairwise map.ascending.distinct Ne.symm
  refine ext_find? fun key => Option.ext fun value => ?_
  rw [find?_eq_some_iff, mem_entries_ofList hdistinct, h.mem_iff, find?_eq_some_iff]

/-- The map of an ascending list has that list as its entries. -/
theorem entries_ofList [Std.TransOrd κ] [Std.LawfulEqOrd κ] {entries : List (κ × α)}
    (h : Ascending entries) : (ofList entries).entries = entries := by
  have hmap : ofList entries = ⟨entries, h⟩ := ofList_of_perm (List.Perm.refl _)
  rw [hmap]

/-- The keys of a map are those that have a value. -/
theorem mem_keys_iff [Std.LawfulEqOrd κ] {map : OrderedMap κ α} {key : κ} :
    key ∈ map.keys ↔ (map.find? key).isSome :=
  mem_map_fst_iff

/-- The value of a key after a function is applied to every value. -/
theorem find?_map (f : α → β) (map : OrderedMap κ α) (key : κ) :
    (map.map f).find? key = (map.find? key).map f := by
  obtain ⟨entries, ascending⟩ := map
  simp only [OrderedMap.map, find?]
  clear ascending
  induction entries with
  | nil => rfl
  | cons entry rest ih =>
    simp only [List.map_cons, valueAt?, ih]
    split <;> rfl

/-- The keys stay when a function is applied to every value. -/
@[simp] theorem keys_map (f : α → β) (map : OrderedMap κ α) : (map.map f).keys = map.keys := by
  simp [keys, OrderedMap.map, Function.comp_def]

/-- Two maps in which the same keys have values have the same keys. -/
theorem keys_congr [Std.TransOrd κ] [Std.LawfulEqOrd κ] {left : OrderedMap κ α}
    {right : OrderedMap κ β} (h : ∀ key, (left.find? key).isSome = (right.find? key).isSome) :
    left.keys = right.keys := by
  -- without their values, the maps are the same
  have hmap : left.map (fun _ => ()) = right.map fun _ => () := by
    refine ext_find? fun key => ?_
    have hkey := h key
    rw [find?_map, find?_map]
    cases hleft : left.find? key <;> cases hright : right.find? key <;>
      simp [hleft, hright] at hkey ⊢
  simpa using congrArg keys hmap

end OrderedMap

end CatalogSearch
