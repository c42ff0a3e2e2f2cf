import CatalogSearch.Proofs.Service.Mutation
import CatalogSearch.Proofs.Value.Edit

/-!
# What a change leaves of the stored value

A change reads the whole stored value of a field and writes the whole of it back, through field
values. `Mutation.edits_of_apply` says on JSON what comes of a stored value on that way, and
`Catalog.mutate_writes_stored` what a successful change therefore asks of the engine, whichever
engine it is: the edited value, in which every element that the change does not name is as it was
stored, apart from the integers that are too large for a field value.
`Catalog.mutate_rounds_large_integer` shows that those do not stay as they were.
-/

namespace CatalogSearch

/-- What a change makes of a stored value: it puts its text in, or removes it. -/
def Mutation.Edits : Mutation → (stored written : Json) → Prop
  | .update request => Json.Updated request.value request.mode
  | .delete request => Json.Removed request.value

/-- The new value of a field is the edited stored one, which is narrowed on the way. -/
theorem Mutation.edits_of_apply {mutation : Mutation} {stored : Json} {value : Value}
    (h : mutation.apply (Value.ofJson stored) = .ok value) :
    mutation.Edits stored.narrowed value.toJson := by
  cases mutation with
  | update request =>
    cases h
    exact Value.updated_ofJson stored request.value request.mode
  | delete request => exact Value.removed_ofJson h

/-- The engine with one reply queued, which has a single document. -/
def InMemory.holding (id : String) (source : Json) : InMemory :=
  fresh.enqueue (.ok [.success ⟨some 1, [⟨"table_search_index", some id, none, some source⟩]⟩])

namespace Catalog

variable {σ : Type} {catalog : Catalog σ} {mutation : Mutation} {state after : σ}
  {message : String}

/-- A successful change has written an edit of what the first hit of the reply stores in the field,
and this alone. The edit is of the stored value narrowed: every element keeps its value, at any
depth, but an integer that is not a signed 64-bit one is rounded to a double. So the elements
that a change does not name are written back as they were exactly when they have no such
integer. -/
theorem mutate_writes_stored (h : catalog.mutate mutation state = (.ok message, after)) :
    let answer := catalog.engine.multiSearch [catalog.keyCall mutation.kind mutation.key] state
    ∃ reply others hit id stored written,
      answer.1 = .ok (.success reply :: others) ∧ reply.hits.head? = some hit ∧
      hit.id = some id ∧ hit.stored? mutation.sourceField = some stored ∧
      mutation.Edits stored.narrowed written ∧ (∀ element : Json, element.Within stored →
        (element.narrowed = element ↔ element.IsSigned)) ∧
      catalog.engine.updateDocument (catalog.index mutation.kind) id
        (.object [("doc", .object [(mutation.sourceField, written)])]) answer.2 =
          (.ok (), after) := by
  intro answer
  obtain ⟨write, hplan, hupdate⟩ := plan_of_mutate_eq_ok h
  obtain ⟨document, current, value, hfound, hcurrent, hvalue, rfl⟩ := plan_eq_ok_iff.1 hplan
  obtain ⟨reply, others, hit, hanswer, hhit, hid, hfields⟩ := exists_hit_of_lookup_eq_ok hfound
  rw [← hfields, Hit.find?_sourceFields, Option.map_eq_some_iff] at hcurrent
  obtain ⟨stored, hstored, rfl⟩ := hcurrent
  have hlooked : (catalog.lookup mutation.kind mutation.key state).2 = answer.2 := by
    rw [lookup_apply]
  rw [hlooked] at hupdate
  exact ⟨reply, others, hit, document.id, stored, value.toJson, hanswer, hhit, hid, hstored,
    Mutation.edits_of_apply hvalue, fun element _ => element.narrowed_eq_self_iff, hupdate⟩

/-- A tag is put behind the only other one. -/
theorem mutate_writes_stored_tag :
    ∃ after written,
      (Session.catalog .standard).mutate (.update ⟨.table, "orders", "tag", "gold", .add⟩)
          (.holding "t1" (.object [("tags", .array [.text "pii"])])) =
        (.ok "Document field tag for orders with value gold was updated successfully", after) ∧
      Json.Updated "gold" .add (.array [.text "pii"]) written ∧
      after.updates =
        [⟨"table_search_index", "t1", .object [("doc", .object [("tags", written)])]⟩] := by
  have hsuccess : (Session.catalog .standard).mutate
      (.update ⟨.table, "orders", "tag", "gold", .add⟩)
      (.holding "t1" (.object [("tags", .array [.text "pii"])])) =
        (.ok "Document field tag for orders with value gold was updated successfully", _) :=
    Prod.ext rfl rfl
  obtain ⟨reply, others, hit, id, stored, written, hanswer, hhit, hid, hstored, hedits, -,
    hupdate⟩ := mutate_writes_stored hsuccess
  cases hanswer
  cases hhit
  cases hid
  cases hstored
  exact ⟨_, written, hsuccess, hedits, congrArg (fun result => result.2.updates) hupdate.symm⟩

/-- An integer that is stored next to the tags and is too large for a field value is written back
as a double when a tag is added, so what is written is no edit of what was stored. -/
theorem mutate_rounds_large_integer :
    let catalog := Session.catalog .standard
    let large := Json.integer ⟨18446744073709551615, by decide, by decide⟩
    let rounded :=
      Json.decimal ⟨false, 4503599627370496, 12, by decide, by decide, by decide, by decide⟩
    let stored := Json.array [large, .text "pii"]
    let written := Json.array [rounded, .text "pii", .text "gold"]
    let state := InMemory.holding "t1" (.object [("key", .text "orders"), ("tags", stored)])
    let mutation := Mutation.update ⟨.table, "orders", "tag", "gold", .add⟩
    (catalog.mutate mutation state).1 = .ok mutation.message ∧
      (catalog.mutate mutation state).2.updates =
        [⟨"table_search_index", "t1", .object [("doc", .object [("tags", written)])]⟩] ∧
      ¬ mutation.Edits stored written := by
  refine ⟨rfl, rfl, ?_⟩
  intro hedits
  cases hedits

end Catalog

end CatalogSearch
