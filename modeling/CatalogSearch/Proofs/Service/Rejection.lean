import CatalogSearch.Proofs.Service.Dispatch

/-!
# Searches that are rejected

The operation of a filter is the one thing in a search that its caller can get wrong. What becomes
of a search with known filters is a matter of the engine's answer, and no such failure is blamed on
the caller (`SearchRequest.exists_engine_of_respond_eq_error`).

The main theorem, `Catalog.search_rejects`, says that a search is rejected for its filters exactly
when one of them is not known, for the first such filter as it was given, and that nothing has
happened by then.
-/

namespace CatalogSearch

/-- A filter is the first one of some filters whose operation is not known. -/
def Filter.FirstUnknown (filters : List Filter) (filter : Filter) : Prop :=
  ∃ before after, filters = before ++ filter :: after ∧ (∀ other ∈ before, other.Known) ∧
    ¬ filter.Known

/-- Filters are all known, or there is a first one that is not. -/
theorem Filter.known_or_firstUnknown (filters : List Filter) :
    (∀ filter ∈ filters, filter.Known) ∨ ∃ filter, FirstUnknown filters filter := by
  refine or_iff_not_imp_left.2 fun h => ?_
  obtain ⟨before, filter, after, hfirst⟩ := exists_first_unknown h
  exact ⟨filter, before, after, hfirst⟩

/-- The request is at fault only for an invalid filter. -/
theorem SearchFailure.isClientError_iff {failure : SearchFailure} :
    failure.isClientError = true ↔ ∃ invalid, failure = .invalidFilter invalid := by
  cases failure <;> simp [isClientError]

/-- What is wrong with an answer is a refusal of the engine. -/
theorem SearchRequest.exists_engine_of_respond_eq_error {ε : Type} {request : SearchRequest}
    {size : UInt64} {answer : Except ε (List Item)} {failure : SearchFailure}
    (h : request.respond size answer = .error failure) : ∃ refusal, failure = .engine refusal := by
  unfold respond at h
  generalize SearchResponse.assemble _ _ _ _ = assembled at h
  cases assembled with
  | ok response => cases h
  | error refusal =>
    cases h
    exact ⟨refusal, rfl⟩

namespace Catalog

variable {σ : Type} {catalog : Catalog σ} {request : SearchRequest} {state : σ}

/-- The first filter that is not known is reported, and the engine is left alone. -/
theorem search_of_firstUnknown {filter : Filter} (h : filter.FirstUnknown request.filters) :
    catalog.search request state = (.error (.invalidFilter ⟨filter⟩), state) := by
  obtain ⟨before, after, hfilters, hbefore, hfilter⟩ := h
  exact search_of_unknown catalog hfilters hbefore hfilter state

/-- A search with known filters is not rejected for them. -/
theorem search_ne_invalidFilter (h : ∀ filter ∈ request.filters, filter.Known)
    (invalid : InvalidFilter) :
    (catalog.search request state).1 ≠ .error (.invalidFilter invalid) := by
  intro hanswer
  rw [search_apply catalog request h] at hanswer
  obtain ⟨refusal, hrefusal⟩ := SearchRequest.exists_engine_of_respond_eq_error hanswer
  cases hrefusal

/-- A search is rejected for a filter when this is the first one that is not known. -/
theorem search_eq_invalidFilter_iff {invalid : InvalidFilter} :
    (catalog.search request state).1 = .error (.invalidFilter invalid) ↔
      invalid.filter.FirstUnknown request.filters := by
  constructor
  · intro h
    rcases Filter.known_or_firstUnknown request.filters with hknown | ⟨filter, hfirst⟩
    · exact absurd h (search_ne_invalidFilter hknown invalid)
    · rw [search_of_firstUnknown hfirst] at h
      cases h
      exact hfirst
  · intro h
    rw [search_of_firstUnknown h]

/-- A search is rejected for an invalid filter exactly when the operation of some filter is neither
of the two known ones. It is rejected with the first such filter, and this alone among the failures
of a search is blamed on the caller. The engine, any engine, is then as it was before, and other
kinds of resources would have made no difference. -/
theorem search_rejects (catalog : Catalog σ) (request : SearchRequest) (state : σ) :
    let answer := (catalog.search request state).1
    let after := (catalog.search request state).2
    ((∃ invalid, answer = .error (.invalidFilter invalid)) ↔
      ∃ filter ∈ request.filters, filter.operation ≠ "AND" ∧ filter.operation ≠ "OR") ∧
    (∀ invalid, answer = .error (.invalidFilter invalid) ↔
      invalid.filter.FirstUnknown request.filters) ∧
    (∀ failure, answer = .error failure →
      (failure.isClientError = true ↔ ∃ invalid, failure = .invalidFilter invalid)) ∧
    (∀ invalid, answer = .error (.invalidFilter invalid) →
      after = state ∧ ∀ kinds, catalog.search { request with kinds := kinds } state =
        (.error (.invalidFilter invalid), state)) := by
  intro answer after
  refine ⟨⟨?_, ?_⟩, fun _ => search_eq_invalidFilter_iff,
    fun _ _ => SearchFailure.isClientError_iff, fun invalid hanswer => ⟨?_, fun kinds => ?_⟩⟩
  · rintro ⟨invalid, hanswer⟩
    obtain ⟨before, rest, hfilters, -, hfilter⟩ := search_eq_invalidFilter_iff.1 hanswer
    exact ⟨invalid.filter, by rw [hfilters]; simp, not_or.1 hfilter⟩
  · rintro ⟨filter, hmem, hfilter⟩
    rcases Filter.known_or_firstUnknown request.filters with hknown | ⟨first, hfirst⟩
    · exact absurd (hknown filter hmem) (not_or.2 hfilter)
    · exact ⟨⟨first⟩, search_eq_invalidFilter_iff.2 hfirst⟩
  · exact congrArg Prod.snd (search_of_firstUnknown (search_eq_invalidFilter_iff.1 hanswer))
  · -- the filters, which alone decide, stay those of the request
    have hfirst : invalid.filter.FirstUnknown request.filters :=
      search_eq_invalidFilter_iff.1 hanswer
    exact search_of_firstUnknown hfirst

end Catalog

end CatalogSearch
