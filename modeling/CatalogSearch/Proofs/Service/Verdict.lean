import CatalogSearch.Proofs.Service.Uniqueness

/-!
# What a lookup decides

The total of a reply, its hits, their identifiers and their sources may each be missing, and may
contradict one another. `Verdict` lists what a lookup makes of every combination, in terms of the
first item of the engine's answer only. `Catalog.lookup_verdict` says that this list is complete
and leaves no choice: what a lookup comes to is the verdict on the first item, and nothing else is.
A lookup has no effect beyond its one round of searches.
-/

namespace CatalogSearch

/-- The first item of an answer to several searches, if there is one. -/
def firstItem? {ε : Type} : Except ε (List Item) → Option Item
  | .ok items => items.head?
  | .error _ => none

/-- What a lookup makes of the first item of the answer to it. The number of matches counts before
anything else that a reply says: the total if it is told, whatever the hits, and else their
number. -/
inductive Verdict (kind : ResourceKind) (key : String) :
    Option Item → Except LookupFailure Document → Prop where
  | unanswered :
      Verdict kind key none (.error (.internal (.stated
        ("No response from search engine for " ++ kind.name ++ " key " ++ key))))
  | refused {failures : Json} :
      Verdict kind key (some (.failure failures)) (.error (.engine ⟨kind, failures⟩))
  | unmatched {reply : Reply} :
      reply.totalHits = 0 →
      Verdict kind key (some (.success reply)) (.error (.notFound kind key))
  | shared {reply : Reply} :
      2 ≤ reply.totalHits →
      Verdict kind key (some (.success reply)) (.error (.notUnique kind key reply.totalHits))
  | withheld {reply : Reply} :
      reply.totalHits = 1 → reply.hits = [] →
      Verdict kind key (some (.success reply)) (.error (.internal (.stated
        ("Search engine counted a " ++ kind.name ++ " document for key " ++ key ++
          " but returned none"))))
  | unidentified {reply : Reply} {hit : Hit} :
      reply.totalHits = 1 → reply.hits.head? = some hit → hit.id = none →
      Verdict kind key (some (.success reply)) (.error (.internal (.stated
        ("Search engine returned " ++ kind.name ++ " document for key " ++ key ++
          " without an id"))))
  | found {reply : Reply} {hit : Hit} {document : Document} :
      reply.totalHits = 1 → reply.hits.head? = some hit → hit.id = some document.id →
      (∀ field, document.fields.find? field = (hit.stored? field).map Value.ofJson) →
      Verdict kind key (some (.success reply)) (.ok document)

namespace Verdict

variable {kind : ResourceKind} {key : String}

/-- A reply comes to a verdict on it. -/
theorem of_reply (reply : Reply) :
    Verdict kind key (some (.success reply)) (reply.unique kind key) := by
  rcases reply.unique_cases kind key with ⟨hcount, h⟩ | ⟨hcount, h⟩ | ⟨hcount, h⟩
  · rw [h]
    exact .unmatched (UInt64.toNat_inj.1 hcount)
  · have hone : reply.totalHits = 1 := UInt64.toNat_inj.1 hcount
    rw [h, Reply.single]
    cases hhits : reply.hits with
    | nil => exact .withheld hone hhits
    | cons hit rest =>
      have hhead : reply.hits.head? = some hit := by rw [hhits]; rfl
      cases hid : hit.id with
      | none => simpa [hid] using unidentified hone hhead hid
      | some id => simpa [hid] using found hone hhead hid hit.find?_sourceFields
  · rw [h]
    exact .shared (UInt64.le_iff_toNat_le.2 hcount)

/-- A reply comes to no other verdict. -/
theorem eq_unique {reply : Reply} {found : Except LookupFailure Document}
    (h : Verdict kind key (some (.success reply)) found) : reply.unique kind key = found := by
  cases h with
  | unmatched hcount => exact if_pos hcount
  | shared hcount =>
    exact Reply.unique_eq_notUnique_iff.2 ⟨UInt64.le_iff_toNat_le.1 hcount, rfl⟩
  | withheld hcount hhits => simp [Reply.unique, Reply.single, hcount, hhits]
  | unidentified hcount hhit hid =>
    obtain ⟨rest, hhits⟩ := List.head?_eq_some_iff.1 hhit
    simp [Reply.unique, Reply.single, hcount, hhits, hid]
  | found hcount hhit hid hfields =>
    -- the fields of a document are determined by the value of each
    have hsource := OrderedMap.ext_find? fun field =>
      (Hit.find?_sourceFields _ field).trans (hfields field).symm
    exact Reply.unique_eq_ok_iff.2 ⟨hcount, Reply.single_eq_ok_iff.2 ⟨_, hhit, hid, hsource⟩⟩

end Verdict

namespace Catalog

variable {σ : Type} {kind : ResourceKind} {key : String}

/-- The outcome of the only search of a lookup comes to the verdict on the first item, and to no
other. -/
theorem resolve_paired_eq_iff {ε : Type} {answer : Except ε (List Item)}
    {found : Except LookupFailure Document} :
    resolve kind key (paired [kind] answer) = found ↔
      Verdict kind key (firstItem? answer) found := by
  match answer with
  | .error _ | .ok [] =>
    constructor
    · rintro rfl
      exact .unanswered
    · rintro ⟨⟩
      rfl
  | .ok (.failure failures :: others) =>
    constructor
    · rintro rfl
      exact .refused
    · rintro ⟨⟩
      rfl
  | .ok (.success reply :: others) =>
    constructor
    · rintro rfl
      exact .of_reply reply
    · exact Verdict.eq_unique

/-- A lookup asks the engine once, with a single search, and comes to the verdict on the first item
of the answer and to nothing else. That round is all it does to the engine: in memory, it is
recorded, and no update is. -/
theorem lookup_verdict (catalog : Catalog σ) (kind : ResourceKind) (key : String) (state : σ) :
    let asked := catalog.engine.multiSearch [catalog.keyCall kind key] state
    (∀ found, (catalog.lookup kind key state).1 = found ↔
      Verdict kind key (firstItem? asked.1) found) ∧
    (catalog.lookup kind key state).2 = asked.2 ∧
    ∀ (config : CatalogConfig) (memory : InMemory),
      let after := ((Session.catalog config).lookup kind key memory).2
      after.searches = memory.searches ++
        [[⟨kind.name ++ config.indexSuffix, (Query.ofKey key).toJson, 0, 1⟩]] ∧
      after.updates = memory.updates := by
  intro asked
  refine ⟨fun found => ?_, ?_, fun config memory => ?_⟩
  · rw [lookup_apply]
    exact resolve_paired_eq_iff
  · rw [lookup_apply]
  · intro after
    have hafter : after = memory.afterRound [(Session.catalog config).keyCall kind key] := by
      simp only [after, lookup_in_memory]
    rw [hafter]
    exact ⟨InMemory.afterRound_searches _ _, InMemory.afterRound_updates _ _⟩

end Catalog

end CatalogSearch
