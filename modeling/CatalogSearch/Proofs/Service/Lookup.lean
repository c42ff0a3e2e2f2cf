import CatalogSearch.Proofs.Service.Round
import CatalogSearch.Proofs.Value.Conversion

/-!
# Lookups by key

A lookup is a round with one search. `Catalog.lookup_apply` reduces it to one call of an engine,
`Reply.unique_eq_ok_iff` says which replies have a document, and
`Catalog.firstHit?_of_lookup_eq_ok` that in memory the document is the first hit of the reply that
was queued for the round.
-/

namespace CatalogSearch

/-- The field value of a stored field is that of its stored JSON value. -/
theorem Hit.find?_sourceFields (hit : Hit) (field : String) :
    hit.sourceFields.find? field = (hit.stored? field).map Value.ofJson := by
  unfold sourceFields stored?
  cases hit.source with
  | none => rfl
  | some source =>
    cases source with
    | object members =>
      rw [OrderedMap.find?_ofEntries, Value.valueAt?_ofJsonMembers]
      rfl
    | _ => rfl

namespace Reply

/-- A reply has a single document when its first hit has an identifier. -/
theorem single_eq_ok_iff {reply : Reply} {kind : ResourceKind} {key : String}
    {document : Document} :
    reply.single kind key = .ok document ↔
      ∃ hit, reply.hits.head? = some hit ∧ hit.id = some document.id ∧
        hit.sourceFields = document.fields := by
  obtain ⟨total, hits⟩ := reply
  obtain ⟨id, fields⟩ := document
  cases hits with
  | nil => simp [single]
  | cons hit rest => cases hid : hit.id <;> simp [single, hid]

/-- A reply has a unique document when it counts one and has it. -/
theorem unique_eq_ok_iff {reply : Reply} {kind : ResourceKind} {key : String}
    {document : Document} :
    reply.unique kind key = .ok document ↔
      reply.totalHits = 1 ∧ reply.single kind key = .ok document := by
  unfold unique
  split
  · rename_i hnone
    simp [hnone]
  · split
    · rename_i hone
      simp [hone]
    · rename_i hmany
      simp [hmany]

end Reply

namespace InMemory

end InMemory

namespace Catalog

variable {σ : Type}

/-- The search of a lookup: the first document of the kind with the key. -/
def keyCall (catalog : Catalog σ) (kind : ResourceKind) (key : String) : SearchCall :=
  ⟨catalog.index kind, (Query.ofKey key).toJson, 0, 1⟩

/-- The outcome of a lookup is that of its only search. -/
theorem resolve_paired_eq_ok_iff {ε : Type} {kind : ResourceKind} {key : String}
    {answer : Except ε (List Item)} {document : Document} :
    resolve kind key (paired [kind] answer) = .ok document ↔
      ∃ reply others, answer = .ok (.success reply :: others) ∧
        reply.unique kind key = .ok document := by
  match answer with
  | .error _ => simp [paired, resolve]
  | .ok [] => simp [paired, resolve]
  | .ok (.failure failures :: others) => simp [paired, resolve]
  | .ok (.success reply :: others) => simp [paired, resolve]

/-- A lookup is one call of the engine. -/
theorem lookup_apply (catalog : Catalog σ) (kind : ResourceKind) (key : String) (state : σ) :
    catalog.lookup kind key state =
      let answer := catalog.engine.multiSearch [catalog.keyCall kind key] state
      (resolve kind key (paired [kind] answer.1), answer.2) := by
  have hne : (OrderedMap.ofList [(kind, Query.ofKey key)]).entries ≠ [] := List.cons_ne_nil _ _
  rw [lookup, bind_apply, execute_apply catalog hne]
  rfl

/-- A document is found when the reply to the only search of the lookup has it first. -/
theorem exists_hit_of_lookup_eq_ok {catalog : Catalog σ} {kind : ResourceKind} {key : String}
    {document : Document} {state : σ}
    (h : (catalog.lookup kind key state).1 = .ok document) :
    ∃ reply others hit,
      (catalog.engine.multiSearch [catalog.keyCall kind key] state).1 =
        .ok (.success reply :: others) ∧
      reply.hits.head? = some hit ∧ hit.id = some document.id ∧
      hit.sourceFields = document.fields := by
  rw [lookup_apply] at h
  obtain ⟨reply, others, hanswer, hunique⟩ := resolve_paired_eq_ok_iff.1 h
  obtain ⟨-, hsingle⟩ := Reply.unique_eq_ok_iff.1 hunique
  obtain ⟨hit, hhit, hid, hfields⟩ := Reply.single_eq_ok_iff.1 hsingle
  exact ⟨reply, others, hit, hanswer, hhit, hid, hfields⟩

variable {config : CatalogConfig} {kind : ResourceKind} {key : String} {state : InMemory}

/-- In memory, a lookup takes the answer queued for it and records its round. -/
theorem lookup_in_memory :
    (Session.catalog config).lookup kind key state =
      (resolve kind key (paired [kind]
          (state.nextAnswer [(Session.catalog config).keyCall kind key])),
        state.afterRound [(Session.catalog config).keyCall kind key]) := by
  simp only [lookup_apply, Session.catalog_engine, InMemory.multiSearch_apply, paired_lift]

end Catalog

end CatalogSearch
