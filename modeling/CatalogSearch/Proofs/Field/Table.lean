import CatalogSearch.Field.Catalog

/-!
# What a field table binds

`FieldTable.Binds` describes the table of a list of pairs without the order in which it is built:
each canonical name of the list is bound once, the names stand in the order in which the list first
has them, and each is bound to the engine name of its last pair (`LastPair`). A pair that is added
behind the list keeps this (`FieldTable.Binds.concat`), so it holds of any table built from layers
(`FieldTable.binds_ofLayers`).

The main theorem, `FieldTable.ofLayers_layered`, reads from it what a table of layers resolves a
name to, and that layers put on top of others take precedence. The tables of the catalog moreover
store different canonical names in different document fields (`FieldTable.sourceField_ofKind_inj`):
a document field belongs to one canonical name at most.
-/

namespace CatalogSearch

/-- The last of some pairs for a canonical name gives it this engine name. -/
def LastPair (pairs : List (String × String)) (canonical engine : String) : Prop :=
  ∃ before after, pairs = before ++ (canonical, engine) :: after ∧ canonical ∉ after.map Prod.fst

namespace LastPair

/-- A name with a last pair is one of the names of the pairs. -/
theorem mem_names {pairs : List (String × String)} {canonical engine : String}
    (h : LastPair pairs canonical engine) : canonical ∈ pairs.map Prod.fst := by
  obtain ⟨before, after, rfl, -⟩ := h
  simp

/-- The last pair for a name in one list behind another: that in the second list, or, when none is
there for the name, that in the first. -/
theorem append_iff {first second : List (String × String)} {canonical engine : String} :
    LastPair (first ++ second) canonical engine ↔
      LastPair second canonical engine ∨
        canonical ∉ second.map Prod.fst ∧ LastPair first canonical engine := by
  constructor
  · rintro ⟨before, after, hpairs, hafter⟩
    rcases List.append_eq_append_iff.1 hpairs with ⟨rest, -, rfl⟩ | ⟨rest, rfl, hrest⟩
    · exact Or.inl ⟨rest, after, rfl, hafter⟩
    · -- the pair stands at the start of the second list, or in the first one
      cases rest with
      | nil => exact Or.inl ⟨[], after, hrest.symm, hafter⟩
      | cons pair rest =>
        rw [List.cons_append, List.cons.injEq] at hrest
        obtain ⟨rfl, rfl⟩ := hrest
        rw [List.map_append, List.mem_append, not_or] at hafter
        exact Or.inr ⟨hafter.2, before, rest, rfl, hafter.1⟩
  · rintro (⟨before, after, rfl, hafter⟩ | ⟨hsecond, before, after, rfl, hafter⟩)
    · exact ⟨first ++ before, after, by simp, hafter⟩
    · refine ⟨before, after ++ second, by simp, ?_⟩
      rw [List.map_append, List.mem_append, not_or]
      exact ⟨hafter, hsecond⟩

/-- A single pair is the last one for its name. -/
theorem singleton_iff {pair : String × String} {canonical engine : String} :
    LastPair [pair] canonical engine ↔ pair = (canonical, engine) := by
  constructor
  · rintro ⟨before, after, hpair, -⟩
    cases before with
    | nil => exact (List.cons.inj hpair).1
    | cons first rest => simp at hpair
  · rintro rfl
    exact ⟨[], [], rfl, List.not_mem_nil⟩

end LastPair

/-- Names stand in the order in which a list first has them. -/
def InFirstOrder (listed names : List String) : Prop :=
  names.Pairwise fun name later => listed.idxOf name < listed.idxOf later

namespace InFirstOrder

variable {listed names : List String}

/-- Names in the order in which they first come up are different. -/
theorem nodup (h : InFirstOrder listed names) : names.Nodup :=
  h.imp fun hlt => by
    rintro rfl
    exact Nat.lt_irrefl _ hlt

/-- What a list has behind its names does not change where they first come up. -/
theorem append (h : InFirstOrder listed names) (hlisted : ∀ name ∈ names, name ∈ listed)
    (more : List String) : InFirstOrder (listed ++ more) names :=
  h.imp_of_mem fun hname hlater hlt => by
    rwa [List.idxOf_append, if_pos (hlisted _ hname), List.idxOf_append, if_pos (hlisted _ hlater)]

/-- A new name at the end of a list comes up behind the others. -/
theorem concat (h : InFirstOrder listed names) (hlisted : ∀ name ∈ names, name ∈ listed)
    {last : String} (hnew : last ∉ listed) :
    InFirstOrder (listed ++ [last]) (names ++ [last]) := by
  refine List.pairwise_append.2 ⟨h.append hlisted [last], List.pairwise_singleton _ _, ?_⟩
  intro name hname other hother
  rw [List.mem_singleton.1 hother, List.idxOf_append, if_pos (hlisted name hname),
    List.idxOf_append, if_neg hnew]
  exact Nat.lt_add_left _ (List.idxOf_lt_length_of_mem (hlisted name hname))

end InFirstOrder

namespace FieldTable

/-- The canonical names that a table binds, in order. -/
def names (table : FieldTable) : List String := table.bindings.map FieldBinding.canonical

/-- A name resolves to a binding of the table that has it. -/
theorem mem_of_resolve? {table : FieldTable} {canonical : String} {binding : FieldBinding}
    (h : table.resolve? canonical = some binding) :
    binding ∈ table.bindings ∧ binding.canonical = canonical :=
  ⟨List.mem_of_find?_eq_some h, by simpa using List.find?_some h⟩

/-- A name that is not bound resolves to nothing. -/
theorem resolve?_eq_none {table : FieldTable} {canonical : String}
    (h : canonical ∉ table.names) : table.resolve? canonical = none := by
  refine List.find?_eq_none.2 fun binding hmem hname => h ?_
  rw [← of_decide_eq_true hname]
  exact List.mem_map_of_mem hmem

/-- A name that is bound has a binding. -/
theorem exists_resolve?_eq_some {table : FieldTable} {canonical : String}
    (h : canonical ∈ table.names) : ∃ binding, table.resolve? canonical = some binding := by
  obtain ⟨binding, hmem, hname⟩ := List.mem_map.1 h
  refine Option.isSome_iff_exists.1 (List.find?_isSome.2 ⟨binding, hmem, ?_⟩)
  simpa using hname

/-- The names that resolve to a binding are those that the table binds. -/
theorem resolve?_isSome_iff {table : FieldTable} {canonical : String} :
    (table.resolve? canonical).isSome ↔ canonical ∈ table.names := by
  refine ⟨fun h => ?_, fun h => Option.isSome_iff_exists.2 (exists_resolve?_eq_some h)⟩
  false_or_by_contra
  rename_i hnot
  rw [resolve?_eq_none hnot] at h
  cases h

/-- The fields of a name that is bound are those of its binding. -/
theorem fields_of_resolve? {table : FieldTable} {canonical : String} {binding : FieldBinding}
    (h : table.resolve? canonical = some binding) :
    table.engineField canonical = binding.engine ∧
      table.sourceField canonical = binding.sourceField := by
  simp [engineField, sourceField, h]

/-- A name that is not bound stands for its own fields. -/
theorem fields_of_not_mem {table : FieldTable} {canonical : String}
    (h : canonical ∉ table.names) :
    table.engineField canonical = canonical ∧ table.sourceField canonical = canonical := by
  simp [engineField, sourceField, resolve?_eq_none h]

/-- Binding a name adds it behind the others, unless it is bound already. -/
theorem names_bindName (canonical engine : String) (bindings : List FieldBinding) :
    names ⟨bindName canonical engine bindings⟩ =
      if canonical ∈ names ⟨bindings⟩ then names ⟨bindings⟩
      else names ⟨bindings⟩ ++ [canonical] := by
  unfold names
  induction bindings with
  | nil => rfl
  | cons binding rest ih =>
    by_cases h : binding.canonical = canonical
    · simp [bindName, h]
    · have hne : ¬ canonical = binding.canonical := fun heq => h heq.symm
      simp only [bindName, h, hne, if_false, List.map_cons, ih, List.mem_cons, false_or]
      split <;> rfl

/-- Binding a name changes what it resolves to, and no other name. -/
theorem resolve?_bindName (canonical engine name : String) (bindings : List FieldBinding) :
    resolve? ⟨bindName canonical engine bindings⟩ name =
      if canonical = name then some ⟨canonical, engine⟩ else resolve? ⟨bindings⟩ name := by
  unfold resolve?
  induction bindings with
  | nil => by_cases hname : canonical = name <;> simp [bindName, hname]
  | cons binding rest ih =>
    by_cases h : binding.canonical = canonical
    · by_cases hname : canonical = name <;> simp [bindName, h, hname]
    · by_cases hname : binding.canonical = name
      · -- the first binding is found, before and after
        subst hname
        have hne : ¬ canonical = binding.canonical := fun heq => h heq.symm
        simp [bindName, h, hne]
      · simpa [bindName, h, hname] using ih

/-- What the table of some pairs holds: each canonical name of the pairs, in the order in which
they first have it, bound to the engine name of its last pair. -/
structure Binds (table : FieldTable) (pairs : List (String × String)) : Prop where
  mem_names_iff : ∀ name, name ∈ table.names ↔ name ∈ pairs.map Prod.fst
  names_ordered : InFirstOrder (pairs.map Prod.fst) table.names
  resolve?_eq_some_iff : ∀ name binding, table.resolve? name = some binding ↔
    binding.canonical = name ∧ LastPair pairs name binding.engine

namespace Binds

/-- The table without bindings is that of no pairs. -/
theorem empty : FieldTable.empty.Binds [] where
  mem_names_iff _ := Iff.rfl
  names_ordered := List.Pairwise.nil
  resolve?_eq_some_iff _ _ :=
    iff_of_false (fun h => nomatch h) fun h => List.not_mem_nil h.2.mem_names

/-- Binding one more name makes the table of the pairs with one more behind them. -/
theorem concat {bindings : List FieldBinding} {pairs : List (String × String)}
    (h : Binds ⟨bindings⟩ pairs) (canonical engine : String) :
    Binds ⟨bindName canonical engine bindings⟩ (pairs ++ [(canonical, engine)]) := by
  have hlisted : (pairs ++ [(canonical, engine)]).map Prod.fst =
      pairs.map Prod.fst ++ [canonical] := by simp
  have hmem : ∀ name ∈ names ⟨bindings⟩, name ∈ pairs.map Prod.fst :=
    fun name => (h.mem_names_iff name).1
  refine ⟨fun name => ?_, ?_, fun name binding => ?_⟩
  · rw [names_bindName, hlisted, List.mem_append, List.mem_singleton, ← h.mem_names_iff]
    split
    · rename_i hbound
      exact ⟨Or.inl, fun hname => hname.elim id fun heq => heq ▸ hbound⟩
    · rw [List.mem_append, List.mem_singleton]
  · rw [names_bindName, hlisted]
    split
    · exact h.names_ordered.append hmem [canonical]
    · rename_i hnew
      exact h.names_ordered.concat hmem fun hname => hnew ((h.mem_names_iff canonical).2 hname)
  · rw [resolve?_bindName, LastPair.append_iff, LastPair.singleton_iff]
    by_cases hname : canonical = name
    · -- the new pair is the last one for its name
      subst hname
      cases binding
      simp [eq_comm]
    · have hne : ¬ name = canonical := fun heq => hname heq.symm
      simp [hname, hne, h.resolve?_eq_some_iff]

/-- Binding the names of further pairs makes the table of those behind the others. -/
theorem foldl {bindings : List FieldBinding} {before : List (String × String)}
    (h : Binds ⟨bindings⟩ before) (pairs : List (String × String)) :
    Binds ⟨pairs.foldl (fun bindings pair => bindName pair.1 pair.2 bindings) bindings⟩
      (before ++ pairs) := by
  induction pairs generalizing bindings before with
  | nil => rwa [List.append_nil]
  | cons pair rest ih =>
    have hrest := ih (h.concat pair.1 pair.2)
    rwa [List.append_assoc] at hrest

/-- A table of pairs behind others resolves the names of the later pairs as the table of those
does, and all other names as that of the earlier ones does. -/
theorem resolve?_append {table earlier later : FieldTable} {first second : List (String × String)}
    (h : table.Binds (first ++ second)) (hearlier : earlier.Binds first)
    (hlater : later.Binds second) (name : String) :
    table.resolve? name =
      if name ∈ later.names then later.resolve? name else earlier.resolve? name := by
  refine Option.ext fun binding => ?_
  rw [h.resolve?_eq_some_iff, LastPair.append_iff, ← hlater.mem_names_iff]
  split
  · rename_i hname
    rw [hlater.resolve?_eq_some_iff]
    simp [hname]
  · rename_i hname
    have hnone : ¬ LastPair second name binding.engine :=
      fun hlast => hname ((hlater.mem_names_iff name).2 hlast.mem_names)
    rw [hearlier.resolve?_eq_some_iff]
    simp [hname, hnone]

end Binds

/-- The table of some layers is the one of all their pairs, layer by layer. -/
theorem binds_ofLayers (layers : List (List (String × String))) :
    (ofLayers layers).Binds layers.flatten :=
  Binds.empty.foldl layers.flatten

/-- A table of layers binds each canonical name once. -/
theorem names_ofLayers_nodup (layers : List (List (String × String))) :
    (ofLayers layers).names.Nodup :=
  (binds_ofLayers layers).names_ordered.nodup

/-- The names of a table of layers are those that some layer has. -/
theorem mem_names_ofLayers_iff {layers : List (List (String × String))} {name : String} :
    name ∈ (ofLayers layers).names ↔ ∃ layer ∈ layers, name ∈ layer.map Prod.fst := by
  rw [(binds_ofLayers layers).mem_names_iff, List.map_flatten, List.mem_flatten]
  constructor
  · rintro ⟨listed, hlisted, hname⟩
    obtain ⟨layer, hlayer, rfl⟩ := List.mem_map.1 hlisted
    exact ⟨layer, hlayer, hname⟩
  · rintro ⟨layer, hlayer, hname⟩
    exact ⟨_, List.mem_map_of_mem hlayer, hname⟩

/-- A table of layers binds the names of all layers, each once and in the order in which the
layers first have them. A name resolves when some layer has it, and its engine field is then the
one of its last pair; any other name stands for its own fields. Layers that are put on top of
others decide the names that they have, and leave the others as they are. -/
theorem ofLayers_layered (layers : List (List (String × String))) :
    ((ofLayers layers).names.Nodup ∧
      InFirstOrder (layers.flatten.map Prod.fst) (ofLayers layers).names) ∧
    ∀ name,
      (name ∈ (ofLayers layers).names ↔ ∃ layer ∈ layers, name ∈ layer.map Prod.fst) ∧
      (((ofLayers layers).resolve? name).isSome ↔
        ∃ layer ∈ layers, name ∈ layer.map Prod.fst) ∧
      (∀ binding, (ofLayers layers).resolve? name = some binding ↔
        binding.canonical = name ∧ LastPair layers.flatten name binding.engine) ∧
      (∀ engine, LastPair layers.flatten name engine →
        (ofLayers layers).engineField name = engine ∧
          (ofLayers layers).sourceField name = FieldBinding.sourceField ⟨name, engine⟩) ∧
      ((∀ layer ∈ layers, name ∉ layer.map Prod.fst) →
        (ofLayers layers).engineField name = name ∧
          (ofLayers layers).sourceField name = name) ∧
      ∀ upper, (ofLayers (layers ++ upper)).resolve? name =
        if name ∈ (ofLayers upper).names then (ofLayers upper).resolve? name
        else (ofLayers layers).resolve? name := by
  have h := binds_ofLayers layers
  refine ⟨⟨names_ofLayers_nodup layers, h.names_ordered⟩, fun name => ⟨mem_names_ofLayers_iff,
    ?_, h.resolve?_eq_some_iff name, fun engine hlast => ?_, fun hnone => ?_, fun upper => ?_⟩⟩
  · rw [resolve?_isSome_iff, mem_names_ofLayers_iff]
  · exact fields_of_resolve? ((h.resolve?_eq_some_iff name ⟨name, engine⟩).2 ⟨rfl, hlast⟩)
  · refine fields_of_not_mem fun hname => ?_
    obtain ⟨layer, hlayer, hmem⟩ := mem_names_ofLayers_iff.1 hname
    exact hnone layer hlayer hmem
  · have happend := binds_ofLayers (layers ++ upper)
    rw [List.flatten_append] at happend
    exact happend.resolve?_append h (binds_ofLayers upper) name

/-- A later layer changes an engine name where the canonical name stands. -/
example :
    ofLayers [[("name", "name"), ("tag", "tags")], [("group", "group"), ("name", "name.keyword")]] =
      ⟨[⟨"name", "name.keyword"⟩, ⟨"tag", "tags"⟩, ⟨"group", "group"⟩]⟩ := by
  decide

/-- The tables of the catalog bind each canonical name once. -/
theorem names_ofKind_nodup (kind : ResourceKind) : (ofKind kind).names.Nodup := by
  cases kind <;> exact names_ofLayers_nodup _

/-- Bindings of one table of the catalog that use the same document field are the same. -/
theorem sourceField_ofKind_inj {kind : ResourceKind} {binding other : FieldBinding}
    (hbinding : binding ∈ (ofKind kind).bindings) (hother : other ∈ (ofKind kind).bindings)
    (h : binding.sourceField = other.sourceField) : binding = other := by
  have hall : ∀ kind, ∀ binding ∈ (ofKind kind).bindings, ∀ other ∈ (ofKind kind).bindings,
      binding.sourceField = other.sourceField → binding = other := by
    intro kind
    cases kind <;> decide +kernel
  exact hall kind binding hbinding other hother h

end FieldTable

end CatalogSearch
