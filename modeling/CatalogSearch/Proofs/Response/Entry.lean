import CatalogSearch.Proofs.Field.Table
import CatalogSearch.Proofs.Service.Lookup
import CatalogSearch.Proofs.Value.Finite
import CatalogSearch.Response.Assembly

/-!
# What an entry shows of a document

An entry shows each canonical field of its table that the document stores (`Hit.get?_toEntry`), with
the value that a change of the field starts from (`Hit.get?_toEntry_eq_find?`).

`Hit.revises_toEntry` is what a write to one stored field does to the entry of a document: the
canonical name of the field shows the written value, and under every other name the entry is as it
was. This needs the table to store different canonical names in different document fields, and the
written value to be one that comes back from JSON.
-/

namespace CatalogSearch

/-- An entry shows a value under a name, and is otherwise as it was before: it shows the same names,
and under each of the others the same value. -/
structure Entry.Revises (name : String) (value : Value) (before after : Entry) : Prop where
  shown : after.get? name = some value
  keys_eq : after.fields.keys = before.fields.keys
  others : ∀ other, other ≠ name → after.get? other = before.get? other

namespace Hit

/-- A canonical field shows the value of the document field that its binding names. -/
theorem get?_toEntry {table : FieldTable} (h : table.names.Nodup) (hit : Hit)
    (canonical : String) :
    (hit.toEntry table).get? canonical =
      (table.resolve? canonical).bind fun binding =>
        (hit.stored? binding.sourceField).map Value.ofJson := by
  obtain ⟨bindings⟩ := table
  simp only [Entry.get?, toEntry, OrderedMap.find?_ofEntries, FieldTable.resolve?]
  induction bindings with
  | nil => rfl
  | cons binding rest ih =>
    obtain ⟨hbinding, hrest⟩ := List.nodup_cons.1 h
    by_cases hname : binding.canonical = canonical
    · -- the other bindings do not show anything under this name
      subst hname
      have hnone := ih hrest
      rw [← FieldTable.resolve?, FieldTable.resolve?_eq_none hbinding] at hnone
      cases hstored : hit.stored? binding.sourceField with
      | none => simpa [hstored] using hnone
      | some value => simp [hstored, valueAt?]
    · have hne : ¬ compare canonical binding.canonical = .eq := fun heq =>
        hname (Std.compare_eq_iff_eq.1 heq).symm
      cases hstored : hit.stored? binding.sourceField with
      | none => simpa [hstored, hname] using ih hrest
      | some value => simpa [hstored, hname, valueAt?, hne] using ih hrest

/-- A canonical field that is bound shows what the document stores for it. -/
theorem get?_toEntry_of_resolve? {kind : ResourceKind} {canonical : String}
    {binding : FieldBinding} (h : (FieldTable.ofKind kind).resolve? canonical = some binding)
    (hit : Hit) :
    (hit.toEntry (FieldTable.ofKind kind)).get? canonical =
      (hit.stored? binding.sourceField).map Value.ofJson := by
  rw [get?_toEntry (FieldTable.names_ofKind_nodup kind), h]
  rfl

/-- A canonical field shows the value that a change of it starts from. -/
theorem get?_toEntry_eq_find? {kind : ResourceKind} {canonical : String}
    (h : canonical ∈ (FieldTable.ofKind kind).names) (hit : Hit) :
    (hit.toEntry (FieldTable.ofKind kind)).get? canonical =
      hit.sourceFields.find? ((FieldTable.ofKind kind).sourceField canonical) := by
  obtain ⟨binding, hbinding⟩ := FieldTable.exists_resolve?_eq_some h
  rw [get?_toEntry_of_resolve? hbinding, find?_sourceFields,
    (FieldTable.fields_of_resolve? hbinding).2]

/-- A write to the stored field of a canonical name shows under that name, and nowhere else. -/
theorem revises_toEntry {kind : ResourceKind} {canonical : String} {hit updated : Hit}
    {stored : Json} {value : Value} (h : canonical ∈ (FieldTable.ofKind kind).names)
    (hstored : hit.stored? ((FieldTable.ofKind kind).sourceField canonical) = some stored)
    (hvalue : value.IsFinite)
    (hupdated : ∀ field, updated.stored? field =
      if field = (FieldTable.ofKind kind).sourceField canonical then some value.toJson
      else hit.stored? field) :
    Entry.Revises canonical value (hit.toEntry (FieldTable.ofKind kind))
      (updated.toEntry (FieldTable.ofKind kind)) := by
  obtain ⟨binding, hbinding⟩ := FieldTable.exists_resolve?_eq_some h
  have hsource := (FieldTable.fields_of_resolve? hbinding).2
  rw [hsource] at hstored hupdated
  have hbefore : (hit.toEntry (FieldTable.ofKind kind)).get? canonical =
      some (Value.ofJson stored) := by
    rw [get?_toEntry_of_resolve? hbinding, hstored, Option.map_some]
  have hshown : (updated.toEntry (FieldTable.ofKind kind)).get? canonical = some value := by
    rw [get?_toEntry_of_resolve? hbinding, hupdated, if_pos rfl, Option.map_some,
      Value.ofJson_toJson_of_isFinite hvalue]
  have hothers : ∀ other, other ≠ canonical →
      (updated.toEntry (FieldTable.ofKind kind)).get? other =
        (hit.toEntry (FieldTable.ofKind kind)).get? other := by
    intro other hne
    cases hresolved : (FieldTable.ofKind kind).resolve? other with
    | none => simp only [get?_toEntry (FieldTable.names_ofKind_nodup kind), hresolved,
        Option.bind_none]
    | some found =>
      -- another name is stored in another field, which the write leaves alone
      have hfield : found.sourceField ≠ binding.sourceField := by
        intro heq
        obtain ⟨hmem, hname⟩ := FieldTable.mem_of_resolve? hresolved
        obtain ⟨hmem', hname'⟩ := FieldTable.mem_of_resolve? hbinding
        have hfound := FieldTable.sourceField_ofKind_inj hmem hmem' heq
        exact hne (by rw [← hname, ← hname', hfound])
      rw [get?_toEntry_of_resolve? hresolved, get?_toEntry_of_resolve? hresolved, hupdated,
        if_neg hfield]
  refine ⟨hshown, OrderedMap.keys_congr fun name => ?_, hothers⟩
  by_cases hname : name = canonical
  · subst hname
    have hboth : ((updated.toEntry (FieldTable.ofKind kind)).get? name).isSome =
        ((hit.toEntry (FieldTable.ofKind kind)).get? name).isSome := by
      rw [hshown, hbefore]
      rfl
    exact hboth
  · exact congrArg Option.isSome (hothers name hname)

end Hit

end CatalogSearch
