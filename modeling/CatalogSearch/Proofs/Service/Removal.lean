import CatalogSearch.Proofs.Service.Persistence

/-!
# What a removal takes from a list

A delete request may say which item to remove from a field that holds a list, and takes them all if
it does not. `Catalog.delete_takes_one` says that a request that does say it never takes more than
this item, which is the first that is displayed as the value, and fails when there is none.

An empty value says nothing: `Catalog.delete_takes_all_for_empty` shows a request with one that takes
every item of a list, although no item is displayed as the empty text.
-/

namespace CatalogSearch

namespace Catalog

variable {σ : Type} {catalog : Catalog σ} {state : σ}

/-- A delete of a field that holds a list writes the empty list if the request has no value, or the
empty one. With any other value it either writes the list without its first item that is displayed
as the value, and with all others in their order, or fails without writing anything because there is
no such item. -/
theorem delete_takes_one {request : DeleteRequest} {document : Document} {items : List Value}
    (hfound : (catalog.lookup request.kind request.key state).1 = .ok document)
    (hitems : document.fields.find? (Mutation.delete request).sourceField = some (.list items)) :
    let looked := (catalog.lookup request.kind request.key state).2
    let write := fun rest =>
      catalog.commit ⟨.delete request, document.id, .list rest⟩ looked
    (request.value.getD "" = "" → catalog.delete request state = write []) ∧
    ∀ text, request.value = some text → text ≠ "" →
      (∃ before item after, items = before ++ item :: after ∧ item.display = text ∧
        (∀ other ∈ before, other.display ≠ text) ∧
        catalog.delete request state = write (before ++ after)) ∨
      ((∀ item ∈ items, item.display ≠ text) ∧
        catalog.delete request state =
          (.error ((Mutation.delete request).failure (.removal ⟨text⟩)), looked)) := by
  intro looked write
  constructor
  · intro hempty
    have hall : (Mutation.delete request).apply (.list items) = .ok (.list []) :=
      Value.removed_list_of_empty hempty
    exact mutate_of_apply_ok hfound hitems hall
  · intro text hvalue htext
    cases hrest : Value.removeFirst? text items with
    | some rest =>
      obtain ⟨before, item, after, hsplit, hitem, hbefore, rfl⟩ :=
        Value.removeFirst?_eq_some_iff.1 hrest
      have hone : (Mutation.delete request).apply (.list items) = .ok (.list (before ++ after)) := by
        show (Value.list items).removed request.value = _
        rw [hvalue]
        exact (Value.removed_list_eq_ok_iff htext).2 ⟨_, hrest, rfl⟩
      exact .inl ⟨before, item, after, hsplit, hitem, hbefore,
        mutate_of_apply_ok hfound hitems hone⟩
    | none =>
      have hnone := Value.removeFirst?_eq_none_iff.1 hrest
      have hfails : (Mutation.delete request).apply (.list items) = .error ⟨text⟩ := by
        show (Value.list items).removed request.value = _
        rw [hvalue]
        exact Value.removed_list_eq_error htext hnone
      exact .inr ⟨hnone, mutate_of_apply_error hfound hitems hfails⟩

/-- Of two items that are displayed alike, a number and a text, the first is taken. -/
theorem delete_takes_one_number :
    let catalog := Session.catalog .standard
    let request : DeleteRequest := ⟨.table, "orders", "tag", some "7"⟩
    let items := [Value.text "pii", .integer 7, .text "7"]
    let document : Document := ⟨"t1", .ofList [("tags", .list items)]⟩
    let state := InMemory.holding "t1" (.object [("tags", (Value.list items).toJson)])
    (catalog.lookup .table "orders" state).1 = .ok document ∧
      document.fields.find? (Mutation.delete request).sourceField = some (.list items) ∧
      ∃ before item after, items = before ++ item :: after ∧ item.display = "7" ∧
        (∀ other ∈ before, other.display ≠ "7") ∧
        (catalog.delete request state).2.updates = [⟨"table_search_index", "t1",
          .object [("doc", .object [("tags", (Value.list (before ++ after)).toJson)])]⟩] := by
  refine ⟨rfl, rfl, ?_⟩
  obtain ⟨-, hvalue⟩ := @delete_takes_one _ (Session.catalog .standard)
    (.holding "t1" (.object [("tags",
      (Value.list [.text "pii", .integer 7, .text "7"]).toJson)]))
    ⟨.table, "orders", "tag", some "7"⟩ ⟨"t1", _⟩ [.text "pii", .integer 7, .text "7"] rfl rfl
  rcases hvalue "7" rfl (by decide) with ⟨before, item, after, hsplit, hitem, hbefore, hdelete⟩ |
    ⟨hnone, -⟩
  · refine ⟨before, item, after, hsplit, hitem, hbefore, ?_⟩
    rw [hdelete]
    rfl
  · exact absurd rfl (hnone (.integer 7) (by simp))

/-- A request to remove the empty text succeeds and removes both items, neither of which is displayed
as the empty text. -/
theorem delete_takes_all_for_empty :
    let catalog := Session.catalog .standard
    let request : DeleteRequest := ⟨.table, "orders", "tag", some ""⟩
    let items := [Value.text "pii", .text "gold"]
    let state := InMemory.holding "t1" (.object [("key", .text "orders"),
      ("tags", (Value.list items).toJson)])
    (catalog.delete request state).1 =
        .ok "Document field tag for orders with value  was deleted successfully" ∧
      (catalog.delete request state).2.updates = [⟨"table_search_index", "t1",
        .object [("doc", .object [("tags", (Value.list []).toJson)])]⟩] ∧
      (∀ item ∈ items, item.display ≠ "") ∧
      ∀ before item after, items = before ++ item :: after → before ++ after ≠ [] := by
  refine ⟨rfl, rfl, by decide, ?_⟩
  intro before item after hsplit hnone
  have hlength := congrArg List.length hsplit
  have hshort := congrArg List.length hnone
  simp only [List.length_append, List.length_cons, List.length_nil] at hlength hshort
  omega

end Catalog

end CatalogSearch
