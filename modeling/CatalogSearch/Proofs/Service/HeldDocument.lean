import CatalogSearch.Proofs.Service.Mutation

/-!
# Changes of a document that the engine holds

`Catalog.HoldsDocument` is what a change relies on in an engine: a lookup finds the document with
its current fields, and an update changes the fields that it names. The two steps of a change then
come down to the fields of the document (`HoldsDocument.prepare`, `HoldsDocument.commit`). The
simplest engine that holds a document has no other one (`Catalog.holdsDocument_singleDocument`).
-/

namespace CatalogSearch

variable {σ : Type}

/-- What a change of a document comes to: the write that it has to carry out, or the failure that it
ends with. -/
def Mutation.outcome (mutation : Mutation) (id : String) (fields : OrderedMap String Json) :
    Except MutationFailure PendingWrite :=
  Catalog.plan mutation (.ok ⟨id, fields.map Value.ofJson⟩)

/-- What a change comes to depends on its own field only. -/
theorem Mutation.outcome_congr {mutation : Mutation} {fields others : OrderedMap String Json}
    (h : fields.find? mutation.sourceField = others.find? mutation.sourceField) (id : String) :
    mutation.outcome id fields = mutation.outcome id others := by
  simp only [outcome, Catalog.plan, Document.field, OrderedMap.find?_map, h]

/-- The write of a change is its own, and goes to the document that was read. -/
theorem Mutation.of_outcome_eq_ok {mutation : Mutation} {id : String}
    {fields : OrderedMap String Json} {write : PendingWrite}
    (h : mutation.outcome id fields = .ok write) : write.mutation = mutation ∧ write.id = id := by
  obtain ⟨document, current, value, hfound, -, -, rfl⟩ := Catalog.plan_eq_ok_iff.1 h
  cases hfound
  exact ⟨rfl, rfl⟩

namespace Catalog

/-- The engine of a catalog holds a document, whose fields are seen in its state. A lookup of the
key finds the document with its current fields, as long as they have the key; an update of the
document is accepted, and changes the fields that it names. -/
structure HoldsDocument (catalog : Catalog σ) (kind : ResourceKind) (key id : String)
    (document : σ → OrderedMap String Json) : Prop where
  found : ∀ state, (document state).find? FieldTable.keyField = some (.text key) →
    ∃ hit after, catalog.engine.multiSearch [catalog.keyCall kind key] state =
        (.ok [.success ⟨some 1, [hit]⟩], after) ∧ hit.id = some id ∧
      hit.source = some (.object (document state).entries) ∧ document after = document state
  updated : ∀ state fields, ∃ after,
    let body := Json.object [("doc", .object fields)]
    catalog.engine.updateDocument (catalog.index kind) id body state = (.ok (), after) ∧
      Json.PartialUpdate body (.object (document state).entries) (.object (document after).entries)

namespace HoldsDocument

variable {catalog : Catalog σ} {kind : ResourceKind} {key id : String}
  {document : σ → OrderedMap String Json}

/-- The first step of a change reads the document and leaves it alone. -/
theorem prepare (h : catalog.HoldsDocument kind key id document) {mutation : Mutation}
    (hkind : mutation.kind = kind) (hkey : mutation.key = key) {state : σ}
    (hfound : (document state).find? FieldTable.keyField = some (.text key)) :
    ∃ after, catalog.prepare mutation state = (mutation.outcome id (document state), after) ∧
      document after = document state := by
  obtain ⟨hit, after, hanswer, hid, hsource, hafter⟩ := h.found state hfound
  have hfields : hit.sourceFields = (document state).map Value.ofJson := by
    refine OrderedMap.ext_find? fun field => ?_
    rw [Hit.find?_sourceFields, OrderedMap.find?_map, Hit.stored?, hsource]
    rfl
  refine ⟨after, ?_, hafter⟩
  have hdocument : resolve kind key (paired [kind]
      (Except.ok [.success ⟨some 1, [hit]⟩] : Except InternalError (List Item))) =
        .ok ⟨id, (document state).map Value.ofJson⟩ := by
    refine resolve_paired_eq_ok_iff.2 ⟨_, [], rfl, Reply.unique_eq_ok_iff.2 ⟨rfl, ?_⟩⟩
    exact Reply.single_eq_ok_iff.2 ⟨hit, rfl, hid, hfields⟩
  simp only [Catalog.prepare, bind_apply, hkind, hkey, lookup_apply, hanswer, hdocument]
  rfl

/-- The second step of a change gives its field the computed value, and leaves the others alone. -/
theorem commit (h : catalog.HoldsDocument kind key id document) {write : PendingWrite}
    (hkind : write.mutation.kind = kind) (hid : write.id = id) (state : σ) :
    ∃ after, catalog.commit write state = (.ok write.mutation.message, after) ∧
      ∀ field, (document after).find? field =
        if field = write.mutation.sourceField then some write.value.toJson
        else (document state).find? field := by
  obtain ⟨after, haccepted, hpartial⟩ :=
    h.updated state [(write.mutation.sourceField, write.value.toJson)]
  refine ⟨after, ?_, write.partialUpdate_iff.1 hpartial⟩
  have hupdate : catalog.engine.updateDocument (catalog.index write.mutation.kind) write.id
      write.body state = (.ok (), after) := by
    rw [hkind, hid]
    exact haccepted
  rw [Catalog.commit, bind_apply, hupdate]
  rfl

end HoldsDocument

/-- The engine with one document. A search finds it as long as it has its key, and an update gives
it the fields that the update names. -/
def singleDocument (key id : String) : Engine (OrderedMap String Json) where
  ping := fun document => (.ok true, document)
  clusterHealth := fun document => (.ok (.object [("status", .text "green")]), document)
  multiSearch := fun calls document =>
    let reply := fun call : SearchCall =>
      if document.find? FieldTable.keyField = some (.text key) then
        Item.success ⟨some 1, [⟨call.index, some id, none, some (.object document.entries)⟩]⟩
      else .success ⟨some 0, []⟩
    (.ok (calls.map reply), document)
  updateDocument := fun _ _ body document =>
    match body.member? "doc" with
    | some (.object fields) =>
      (.ok (), fields.foldr (fun field document => document.insert field.1 field.2) document)
    | _ => (.ok (), document)

/-- The engine with one document holds it. -/
theorem holdsDocument_singleDocument (config : CatalogConfig) (kind : ResourceKind)
    (key id : String) :
    HoldsDocument ⟨singleDocument key id, config⟩ kind key id fun document => document where
  found document hkey := by
    let index := kind.name ++ config.indexSuffix
    refine ⟨⟨index, some id, none, some (.object document.entries)⟩, document, ?_, rfl, rfl, rfl⟩
    simp only [singleDocument, hkey, if_true, List.map_cons, List.map_nil]
    rfl
  updated document fields := ⟨_, rfl, document.find?_foldr_insert fields⟩

end Catalog

end CatalogSearch
