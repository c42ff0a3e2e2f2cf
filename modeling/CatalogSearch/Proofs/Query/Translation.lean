import CatalogSearch.Proofs.Query.Meaning

/-!
# Requests that have queries

Whether the queries for some kinds can be built is a question of the filters alone. If the operation
of every filter is known, each kind has its query (`buildAll_eq_ok`); if not, then the first filter
whose operation is not known is reported, whatever the kinds are (`buildAll_eq_error`).
-/

namespace CatalogSearch

namespace Filter

/-- The operation of a filter is one of the two known ones. -/
def Known (filter : Filter) : Prop := filter.operation = "AND" ∨ filter.operation = "OR"

/-- Whether the operation of a filter is known can be decided by comparing it. -/
instance (filter : Filter) : Decidable filter.Known := inferInstanceAs (Decidable (_ ∨ _))

/-- A filter whose operation is not known has no mode, and is reported for it. -/
theorem mode_of_unknown {filter : Filter} (h : ¬ filter.Known) : filter.mode = .error ⟨filter⟩ := by
  have hall : ¬ filter.operation = FilterMode.all.name := fun heq => h (Or.inl heq)
  have hany : ¬ filter.operation = FilterMode.any.name := fun heq => h (Or.inr heq)
  have hnone : filter.mode? = none := by
    rw [mode?, FilterMode.parse?, if_neg hall, if_neg hany]
  rw [mode, hnone]

/-- Filters that are not all known have a first one that is not. -/
theorem exists_first_unknown {filters : List Filter} (h : ¬ ∀ filter ∈ filters, filter.Known) :
    ∃ before filter after, filters = before ++ filter :: after ∧
      (∀ other ∈ before, other.Known) ∧ ¬ filter.Known := by
  induction filters with
  | nil => exact absurd (by simp) h
  | cons first rest ih =>
    by_cases hfirst : first.Known
    · have hrest : ¬ ∀ filter ∈ rest, filter.Known :=
        fun hrest => h (List.forall_mem_cons.2 ⟨hfirst, hrest⟩)
      obtain ⟨before, filter, after, rfl, hbefore, hfilter⟩ := ih hrest
      exact ⟨first :: before, filter, after, rfl, List.forall_mem_cons.2 ⟨hfirst, hbefore⟩, hfilter⟩
    · exact ⟨[], first, rest, rfl, by simp, hfirst⟩

end Filter

namespace Query

/-- The first filter whose operation is not known is reported. -/
theorem constraints_of_unknown (kind : ResourceKind) {before after : List Filter} {filter : Filter}
    (hbefore : ∀ other ∈ before, other.Known) (h : ¬ filter.Known) :
    constraints kind (before ++ filter :: after) = .error ⟨filter⟩ := by
  induction before with
  | nil =>
    rw [List.nil_append, constraints, Filter.mode_of_unknown h]
    rfl
  | cons first rest ih =>
    obtain ⟨hfirst, hrest⟩ := List.forall_mem_cons.1 hbefore
    obtain ⟨mode, hmode, -⟩ := Filter.exists_mode hfirst
    rw [List.cons_append, constraints, hmode, ih hrest]
    rfl

/-- The query for a term and filters that have clauses. -/
theorem build_of_constraints {kind : ResourceKind} (term : String) {filters : List Filter}
    {clauses : List Json} (h : constraints kind filters = .ok clauses) :
    build kind term filters =
      .ok ⟨termClauses (RelevanceProfile.ofKind kind) (Text.trim term),
        usageClauses (RelevanceProfile.ofKind kind) (Text.trim term), clauses⟩ := by
  rw [build, h]
  rfl

/-- With known filters, every kind has a query. -/
theorem exists_build (term : String) {filters : List Filter}
    (h : ∀ filter ∈ filters, filter.Known) :
    ∃ queries : ResourceKind → Query, ∀ kind, build kind term filters = .ok (queries kind) := by
  have hquery : ∀ kind, ∃ query, build kind term filters = .ok query := by
    intro kind
    obtain ⟨clauses, hclauses, -⟩ := constraints_hold_iff kind h
    exact ⟨_, build_of_constraints term hclauses⟩
  exact Classical.skolem.1 hquery

/-- A list of kinds has queries when each of the kinds has. -/
theorem mapM_build {kinds : List ResourceKind} {term : String} {filters : List Filter}
    {queries : ResourceKind → Query} (h : ∀ kind, build kind term filters = .ok (queries kind)) :
    (kinds.mapM fun kind => do
      let query ← build kind term filters
      pure (kind, query)) = .ok (kinds.map fun kind => (kind, queries kind)) := by
  induction kinds with
  | nil => rfl
  | cons kind rest ih =>
    rw [List.mapM_cons, h kind, ih]
    rfl

/-- The queries for kinds that are in order are those of each kind, in that order. -/
theorem buildAll_eq_ok {kinds : List ResourceKind} {term : String} {filters : List Filter}
    {queries : ResourceKind → Query} (hkinds : kinds.Pairwise fun a b => compare a b = .lt)
    (h : ∀ kind, build kind term filters = .ok (queries kind)) :
    ∃ map, buildAll kinds term filters = .ok map ∧
      map.entries = kinds.map fun kind => (kind, queries kind) := by
  refine ⟨.ofList (kinds.map fun kind => (kind, queries kind)), ?_, ?_⟩
  · rw [buildAll, mapM_build h]
    rfl
  · exact OrderedMap.entries_ofList (List.pairwise_map.2 hkinds)

/-- For no kinds there are queries, if there is any, when a filter is not known: the first such
filter is reported. -/
theorem buildAll_eq_error {kinds : List ResourceKind} (hkinds : kinds ≠ []) (term : String)
    {before after : List Filter} {filter : Filter} (hbefore : ∀ other ∈ before, other.Known)
    (h : ¬ filter.Known) :
    buildAll kinds term (before ++ filter :: after) = .error ⟨filter⟩ := by
  obtain ⟨kind, rest, rfl⟩ := List.exists_cons_of_ne_nil hkinds
  rw [buildAll, List.mapM_cons, build, constraints_of_unknown kind hbefore h]
  rfl

end Query

end CatalogSearch
