import CatalogSearch.Proofs.Response.Entry
import CatalogSearch.Proofs.Service.Persistence

/-!
# What a search shows of a change

A change and a search know a field by its canonical name and find it in the document in ways of
their own. The main theorem, `Catalog.mutate_shown`, says that they agree: a change starts from the
value that a search shows, and when the engine has carried out the write of the change, a search
shows the new value there, and everything else as before.
-/

namespace CatalogSearch

/-- What a change computes from a finite value is finite. -/
theorem Mutation.isFinite_of_apply {mutation : Mutation} {current value : Value}
    (hcurrent : current.IsFinite) (h : mutation.apply current = .ok value) : value.IsFinite := by
  cases mutation with
  | update request =>
    cases h
    exact hcurrent.updated request.value request.mode
  | delete request => exact hcurrent.removed h

namespace Catalog

/-- A successful change has written what it computed from the stored value of its field, in the
first hit of the reply to its lookup. -/
theorem exists_write_of_mutate_eq_ok {σ : Type} {catalog : Catalog σ} {mutation : Mutation}
    {state after : σ} {message : String}
    (h : catalog.mutate mutation state = (.ok message, after)) :
    let answer := catalog.engine.multiSearch [catalog.keyCall mutation.kind mutation.key] state
    ∃ reply others hit id stored value,
      answer.1 = .ok (.success reply :: others) ∧ reply.hits.head? = some hit ∧
      hit.id = some id ∧ hit.stored? mutation.sourceField = some stored ∧
      mutation.apply (.ofJson stored) = .ok value ∧
      catalog.engine.updateDocument (catalog.index mutation.kind) id
        (PendingWrite.body ⟨mutation, id, value⟩) answer.2 = (.ok (), after) := by
  intro answer
  obtain ⟨write, hplan, hupdate⟩ := plan_of_mutate_eq_ok h
  obtain ⟨document, current, value, hfound, hcurrent, hvalue, rfl⟩ := plan_eq_ok_iff.1 hplan
  obtain ⟨reply, others, hit, hanswer, hhit, hid, hfields⟩ := exists_hit_of_lookup_eq_ok hfound
  rw [← hfields, Hit.find?_sourceFields, Option.map_eq_some_iff] at hcurrent
  obtain ⟨stored, hstored, rfl⟩ := hcurrent
  have hlooked : (catalog.lookup mutation.kind mutation.key state).2 = answer.2 := by
    rw [lookup_apply]
  rw [hlooked] at hupdate
  exact ⟨reply, others, hit, document.id, stored, value, hanswer, hhit, hid, hstored, hvalue,
    hupdate⟩

/-- A canonical field shows the value that a change of it starts from, for every hit. And when a
change of it has succeeded, by any engine, then the engine was asked to write the new value to the
hit that the change has found; once the document of that hit is updated as the engine was asked,
the hit shows the new value in the field, the same fields as before, and in each of the others the
same value as before. -/
theorem mutate_shown {mutation : Mutation}
    (hfield : mutation.field ∈ (FieldTable.ofKind mutation.kind).names) :
    let table := FieldTable.ofKind mutation.kind
    (∀ hit : Hit, (hit.toEntry table).get? mutation.field =
      hit.sourceFields.find? mutation.sourceField) ∧
    (∀ {σ : Type} (catalog : Catalog σ) (state after : σ) (message : String),
      catalog.mutate mutation state = (.ok message, after) →
      let answer := catalog.engine.multiSearch [catalog.keyCall mutation.kind mutation.key] state
      ∃ reply others hit source id current value,
        answer.1 = .ok (.success reply :: others) ∧ reply.hits.head? = some hit ∧
        hit.source = some source ∧ hit.id = some id ∧
        (hit.toEntry table).get? mutation.field = some current ∧
        mutation.apply current = .ok value ∧
        let body := Json.object [("doc", .object [(mutation.sourceField, value.toJson)])]
        catalog.engine.updateDocument (catalog.index mutation.kind) id body answer.2 =
          (.ok (), after) ∧
        ∀ written, Json.PartialUpdate body source written →
          Entry.Revises mutation.field value (hit.toEntry table)
            (Hit.toEntry table { hit with source := some written })) := by
  intro table
  have hshown : ∀ hit : Hit, (hit.toEntry table).get? mutation.field =
      hit.sourceFields.find? mutation.sourceField := Hit.get?_toEntry_eq_find? hfield
  refine ⟨hshown, fun catalog state after message h => ?_⟩
  obtain ⟨reply, others, hit, id, stored, value, hanswer, hhit, hid, hstored, hvalue, hupdate⟩ :=
    exists_write_of_mutate_eq_ok h
  obtain ⟨source, hsource, hmember⟩ := Option.bind_eq_some_iff.1 hstored
  have hcurrent : (hit.toEntry table).get? mutation.field = some (Value.ofJson stored) := by
    rw [hshown, Hit.find?_sourceFields, hstored, Option.map_some]
  refine ⟨reply, others, hit, source, id, Value.ofJson stored, value, hanswer, hhit, hsource, hid,
    hcurrent, hvalue, hupdate, fun written hwritten => ?_⟩
  refine Hit.revises_toEntry hfield hstored
    (Mutation.isFinite_of_apply (Value.isFinite_ofJson stored) hvalue) fun field => ?_
  show written.member? field = _
  rw [(PendingWrite.partialUpdate_iff ⟨mutation, id, value⟩).1 hwritten field]
  simp only [Hit.stored?, hsource, Option.bind_some]
  rfl

/-- A table shows the tag that was put behind its only other one, and its description as before. -/
theorem mutate_shown_tag :
    let mutation := Mutation.update ⟨.table, "orders", "tag", "gold", .add⟩
    let table := FieldTable.ofKind .table
    let source := Json.object [("description", .text "All orders"), ("tags", .array [.text "pii"])]
    let written := Json.object
      [("description", .text "All orders"), ("tags", .array [.text "pii", .text "gold"])]
    let hit : Hit := ⟨"table_search_index", some "t1", none, some source⟩
    mutation.field ∈ table.names ∧
    (∃ after, (Session.catalog .standard).mutate mutation (.holding "t1" source) =
      (.ok mutation.message, after)) ∧
    Entry.Revises "tag" (.list [.text "pii", .text "gold"]) (hit.toEntry table)
      (Hit.toEntry table { hit with source := some written }) := by
  have hfield : (Mutation.update ⟨.table, "orders", "tag", "gold", .add⟩).field ∈
      (FieldTable.ofKind .table).names := by decide
  refine ⟨hfield, ⟨_, Prod.ext rfl rfl⟩, ?_⟩
  obtain ⟨-, hmutate⟩ := mutate_shown hfield
  obtain ⟨reply, others, hit, source, id, current, value, hanswer, hhit, hsource, hid, hcurrent,
    hvalue, -, hrevises⟩ := hmutate (Session.catalog .standard) (.holding "t1" (Json.object
      [("description", .text "All orders"), ("tags", .array [.text "pii"])])) _ _
      (Prod.ext rfl rfl)
  cases hanswer
  cases hhit
  cases hsource
  cases hcurrent
  cases hvalue
  have htags : (Mutation.update ⟨.table, "orders", "tag", "gold", .add⟩).sourceField = "tags" :=
    rfl
  refine hrevises (.object _) fun field => ?_
  by_cases hname : field = "tags"
  · subst hname
    rfl
  · simp [Json.given?, Json.member?, valueAt?, htags, hname]

end Catalog

end CatalogSearch
