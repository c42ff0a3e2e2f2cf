import CatalogSearch.Query.Basic
import Mathlib.Logic.Basic

/-!
# The meaning of queries

Which documents a query selects. An engine reads a clause as true or false of a document: a leaf
clause in a way of its own (`Leaves`), `match_all` as true, and `bool` by combining the clauses
listed under its roles. The evaluator `holds` is this reading of the JSON that a query is sent as;
`holds_bool_iff` spells it out for a `bool` clause and `holds_toJson_iff` for the three lists of a
query.

The main theorem, `build_meaning`, says what the query for a term and filters asks of a document,
in terms of the leaf clauses alone. Usage clauses are optional where they stand: they come only
with a mandatory clause for the term, so that no document is found or lost by them. The query for a
key asks for the key itself and nothing else (`holds_ofKey`).
-/

namespace CatalogSearch

/-- The truth of the leaf clauses for one document. -/
structure Leaves where
  fullText : (field text : String) → Bool
  wildcard : (field pattern : String) → Bool
  term : (field value : String) → Bool
  rankFeature : (body : Json) → Bool

namespace Query

/-- The truth of a leaf clause, from its name and the members of its body. What is no leaf clause
of the engine is false. -/
def leafHolds (doc : Leaves) (name : String) (members : List (String × Json)) : Bool :=
  if name = "match" then
    match members with
    | [(field, params)] => ((params.member? "query").bind Json.text?).any (doc.fullText field)
    | _ => false
  else if name = "wildcard" then
    match members with
    | [(field, .text pattern)] => doc.wildcard field pattern
    | _ => false
  else if name = "term" then
    match members with
    | [(field, .text value)] => doc.term field value
    | _ => false
  else if name = "rank_feature" then doc.rankFeature (.object members)
  else false

/-- The clauses that a `bool` clause lists under a role. -/
def clausesAt (role : String) (members : List (String × Json)) : List Json :=
  match valueAt? role members with
  | some (.array clauses) => clauses
  | _ => []

/-- Whether a `bool` clause asks for one of its `should` clauses: it does when it says so, and when
it has no mandatory clauses. -/
def needsShould (members : List (String × Json)) : Bool :=
  valueAt? "minimum_should_match" members = some (.ofUInt64 1) ||
    ((clausesAt "must" members).isEmpty && (clausesAt "filter" members).isEmpty)

mutual

/-- Whether a document satisfies a clause. -/
def holds (doc : Leaves) : Json → Bool
  | .object [(name, .object members)] =>
    if name = "match_all" then true
    else if name = "bool" then
      (verdicts doc "must" members).all id && (verdicts doc "filter" members).all id &&
        (!needsShould members || (verdicts doc "should" members).any id)
    else leafHolds doc name members
  | _ => false

/-- Which of the clauses under a role a document satisfies, in order. -/
def verdicts (doc : Leaves) (role : String) : List (String × Json) → List Bool
  | [] => []
  | (name, .array clauses) :: rest =>
    if compare role name = .eq then holdsEach doc clauses else verdicts doc role rest
  | (name, _) :: rest => if compare role name = .eq then [] else verdicts doc role rest

/-- Which of some clauses a document satisfies, in order. -/
def holdsEach (doc : Leaves) : List Json → List Bool
  | [] => []
  | clause :: rest => holds doc clause :: holdsEach doc rest

end

/-- The verdicts on some clauses are those on each of them. -/
theorem holdsEach_eq_map (doc : Leaves) (clauses : List Json) :
    holdsEach doc clauses = clauses.map (holds doc) := by
  induction clauses with
  | nil => rfl
  | cons clause rest ih => rw [holdsEach, ih, List.map_cons]

/-- The verdicts under a role are those on the clauses listed under it. -/
theorem verdicts_eq_map (doc : Leaves) (role : String) (members : List (String × Json)) :
    verdicts doc role members = (clausesAt role members).map (holds doc) := by
  induction members with
  | nil => rfl
  | cons head rest ih =>
    obtain ⟨name, value⟩ := head
    by_cases h : compare role name = .eq
    · -- the first member under the role counts, and has clauses only if it is an array
      cases value <;> simp [verdicts, clausesAt, valueAt?, h, holdsEach_eq_map]
    · have hrest : clausesAt role ((name, value) :: rest) = clausesAt role rest := by
        simp only [clausesAt, valueAt?, if_neg h]
      rw [hrest, ← ih]
      cases value <;> simp only [verdicts, if_neg h]

/-- A `bool` clause holds when all its mandatory clauses do, and one of its `should` clauses where
one is needed. -/
theorem holds_bool_iff {doc : Leaves} {members : List (String × Json)} :
    holds doc (.object [("bool", .object members)]) = true ↔
      (∀ clause ∈ clausesAt "must" members, holds doc clause = true) ∧
      (∀ clause ∈ clausesAt "filter" members, holds doc clause = true) ∧
      (needsShould members = true →
        ∃ clause ∈ clausesAt "should" members, holds doc clause = true) := by
  have hname : ¬ ("bool" : String) = "match_all" := by decide
  rw [holds, if_neg hname, if_pos rfl, verdicts_eq_map, verdicts_eq_map, verdicts_eq_map]
  cases needsShould members <;> simp [and_assoc]

/-- The clauses of a query stand under their roles. -/
theorem clausesAt_occurrences (query : Query) :
    let members := occurrence "filter" query.filter ++ occurrence "must" query.must ++
      occurrence "should" query.should
    clausesAt "must" members = query.must ∧ clausesAt "filter" members = query.filter ∧
      clausesAt "should" members = query.should ∧
      valueAt? "minimum_should_match" members = none := by
  obtain ⟨must, should, filter⟩ := query
  cases must <;> cases should <;> cases filter <;>
    simp [clausesAt, occurrence, valueAt?]

/-- A query holds when its mandatory clauses do, and one of its scoring clauses if it has no
others. -/
theorem holds_toJson_iff {doc : Leaves} {query : Query} :
    holds doc query.toJson = true ↔
      (∀ clause ∈ query.must, holds doc clause = true) ∧
      (∀ clause ∈ query.filter, holds doc clause = true) ∧
      (query.must = [] → query.filter = [] → query.should ≠ [] →
        ∃ clause ∈ query.should, holds doc clause = true) := by
  by_cases hempty : (query.must.isEmpty && query.should.isEmpty && query.filter.isEmpty) = true
  · simp only [Bool.and_eq_true, List.isEmpty_iff] at hempty
    obtain ⟨⟨hmust, hshould⟩, hfilter⟩ := hempty
    simp [toJson, hmust, hshould, hfilter, holds]
  · obtain ⟨hmust, hfilter, hshould, hminimum⟩ := clausesAt_occurrences query
    rw [toJson, if_neg hempty, holds_bool_iff, hmust, hfilter, hshould, needsShould, hminimum,
      hmust, hfilter]
    -- what is left is about the `should` clauses: some exist when the other lists are empty
    simp only [Bool.and_eq_true, List.isEmpty_iff] at hempty
    have hone : ¬ (none : Option Json) = some (.ofUInt64 1) := by simp
    simp only [hone, decide_false, Bool.false_or, Bool.and_eq_true, List.isEmpty_iff, and_imp]
    refine and_congr_right fun _ => and_congr_right fun _ => ?_
    refine forall_congr' fun hm => forall_congr' fun hf => ?_
    have hs : query.should ≠ [] := fun hs => hempty ⟨⟨hm, hs⟩, hf⟩
    simp [hs]

/-- Scoring clauses beside a mandatory one are optional: such a query holds when its mandatory
clauses do. -/
theorem holds_toJson_iff_of_must {doc : Leaves} {query : Query}
    (h : query.should ≠ [] → query.must ≠ []) :
    holds doc query.toJson = true ↔
      (∀ clause ∈ query.must, holds doc clause = true) ∧
      (∀ clause ∈ query.filter, holds doc clause = true) := by
  rw [holds_toJson_iff]
  refine and_congr_right fun _ => ?_
  rw [and_iff_left]
  intro hmust _ hshould
  exact absurd hmust (h hshould)

/-- The query for a key holds when the key field has that key as its term. -/
theorem holds_ofKey (doc : Leaves) (key : String) :
    holds doc (ofKey key).toJson = doc.term FieldTable.keyField key := by
  have hclause : holds doc (.object [("term", .object [(FieldTable.keyField, .text key)])]) =
      doc.term FieldTable.keyField key := by
    simp [holds, leafHolds]
  have hmust : (ofKey key).must = [] := rfl
  have hfilter : (ofKey key).filter =
      [.object [("term", .object [(FieldTable.keyField, .text key)])]] := rfl
  rw [Bool.eq_iff_iff, holds_toJson_iff, hmust, hfilter]
  simp [hclause]

/-- A wildcard clause holds as the leaf it is. -/
@[simp] theorem holds_wildcardClause (doc : Leaves) (field pattern : String) :
    holds doc (wildcardClause field pattern) = doc.wildcard field pattern := by
  simp [wildcardClause, holds, leafHolds]

/-- A match clause holds as its leaf does, whatever its weight and fuzziness. -/
@[simp] theorem holds_matchClause (doc : Leaves) (spec : MatchField) (term : String) :
    holds doc (matchClause spec term) = doc.fullText spec.field term := by
  obtain ⟨field, boost, fuzziness⟩ := spec
  cases boost <;> cases fuzziness <;>
    simp [matchClause, holds, leafHolds, Json.member?, valueAt?, Json.text?]

/-- The clauses for a term hold when the term is empty or some field of the profile matches it. -/
theorem termClauses_hold_iff {doc : Leaves} {profile : RelevanceProfile} {term : String} :
    (∀ clause ∈ termClauses profile term, holds doc clause = true) ↔
      term = "" ∨ ∃ spec ∈ profile.matchFields, doc.fullText spec.field term = true := by
  by_cases hterm : term = ""
  · simp [termClauses, hterm]
  · have hne : ¬ term.isEmpty = true := by simpa using hterm
    simp [termClauses, hne, hterm, holds_bool_iff, clausesAt, needsShould, valueAt?]

/-- Where there are scoring clauses, there is a mandatory one. -/
theorem termClauses_ne_nil {profile : RelevanceProfile} {term : String}
    (h : usageClauses profile term ≠ []) : termClauses profile term ≠ [] := by
  unfold usageClauses at h
  unfold termClauses
  split at h
  · exact absurd rfl h
  · rename_i hterm
    rw [if_neg hterm]
    exact List.cons_ne_nil _ _

/-- The query for a term and some restrictions holds when some field matches the term, unless that
is empty, and all restrictions hold. -/
theorem holds_termQuery_iff {doc : Leaves} {profile : RelevanceProfile} {term : String}
    {clauses : List Json} :
    holds doc (Query.mk (termClauses profile term) (usageClauses profile term) clauses).toJson =
        true ↔
      (term = "" ∨ ∃ spec ∈ profile.matchFields, doc.fullText spec.field term = true) ∧
      ∀ clause ∈ clauses, holds doc clause = true := by
  rw [holds_toJson_iff_of_must termClauses_ne_nil, termClauses_hold_iff]

/-- The query for a term and some restrictions holds as it does without its scoring clauses. -/
theorem holds_termQuery_without_usage (doc : Leaves) (profile : RelevanceProfile) (term : String)
    (clauses : List Json) :
    holds doc (Query.mk (termClauses profile term) [] clauses).toJson =
      holds doc
        (Query.mk (termClauses profile term) (usageClauses profile term) clauses).toJson := by
  -- both queries have the same mandatory clauses, and these decide both
  rw [Bool.eq_iff_iff, holds_toJson_iff_of_must fun hshould => absurd rfl hshould,
    holds_toJson_iff_of_must termClauses_ne_nil]

end Query

namespace Filter

/-- What a filter asks of a document, by the engine field of its name: each of its values, or some
value, is a pattern that the field matches. -/
def Admits (filter : Filter) (table : FieldTable) (doc : Leaves) : Prop :=
  (filter.operation = "AND" →
    ∀ value ∈ filter.values, doc.wildcard (table.engineField filter.name) value = true) ∧
  (filter.operation = "OR" →
    ∃ value ∈ filter.values, doc.wildcard (table.engineField filter.name) value = true)

/-- A filter whose operation is one of the two known ones has the mode of that name. -/
theorem exists_mode {filter : Filter} (h : filter.operation = "AND" ∨ filter.operation = "OR") :
    ∃ mode, filter.mode = .ok mode ∧ filter.operation = mode.name := by
  rcases h with h | h
  · exact ⟨.all, by simp [mode, mode?, FilterMode.parse?, FilterMode.name, h], h⟩
  · exact ⟨.any, by simp [mode, mode?, FilterMode.parse?, FilterMode.name, h], h⟩

end Filter

namespace Query

/-- The clauses of a filter hold when it admits the document. -/
theorem filterClauses_hold_iff {doc : Leaves} {table : FieldTable} {filter : Filter}
    {mode : FilterMode} (h : filter.operation = mode.name) :
    (∀ clause ∈ filterClauses mode (table.engineField filter.name) filter.values,
        holds doc clause = true) ↔
      filter.Admits table doc := by
  -- any value: the disjunction is a `bool` clause of its own, without mandatory clauses
  cases mode with
  | all => simp [filterClauses, Filter.Admits, h, FilterMode.name]
  | any =>
    simp [filterClauses, Filter.Admits, h, FilterMode.name, holds_bool_iff, clausesAt,
      needsShould, valueAt?]

/-- Filters with known operations translate to clauses, which hold when every filter admits the
document. -/
theorem constraints_hold_iff (kind : ResourceKind) {filters : List Filter}
    (h : ∀ filter ∈ filters, filter.operation = "AND" ∨ filter.operation = "OR") :
    ∃ clauses, constraints kind filters = .ok clauses ∧
      ∀ doc, (∀ clause ∈ clauses, holds doc clause = true) ↔
        ∀ filter ∈ filters, filter.Admits (FieldTable.ofKind kind) doc := by
  induction filters with
  | nil => exact ⟨[], rfl, by simp⟩
  | cons filter rest ih =>
    obtain ⟨mode, hmode, hname⟩ := Filter.exists_mode (h filter List.mem_cons_self)
    obtain ⟨clauses, hclauses, hiff⟩ :=
      ih fun other hother => h other (List.mem_cons_of_mem _ hother)
    refine ⟨_, by rw [constraints, hmode, hclauses]; rfl, fun doc => ?_⟩
    rw [List.forall_mem_append, filterClauses_hold_iff hname, hiff doc, List.forall_mem_cons]

/-- A document satisfies the query for a term and filters exactly when the term is blank or some
field of the profile matches it, and every filter admits the document. The clauses that only score
could be left out. -/
theorem build_meaning (kind : ResourceKind) (term : String) (filters : List Filter)
    (h : ∀ filter ∈ filters, filter.operation = "AND" ∨ filter.operation = "OR") :
    ∃ query, build kind term filters = .ok query ∧
      (∀ doc, holds doc query.toJson = true ↔
        (Text.trim term = "" ∨ ∃ spec ∈ (RelevanceProfile.ofKind kind).matchFields,
          doc.fullText spec.field (Text.trim term) = true) ∧
        ∀ filter ∈ filters, filter.Admits (FieldTable.ofKind kind) doc) ∧
      ∀ doc, holds doc { query with should := [] }.toJson = holds doc query.toJson := by
  obtain ⟨clauses, hclauses, hfilters⟩ := constraints_hold_iff kind h
  have hbuild : build kind term filters =
      .ok ⟨termClauses (RelevanceProfile.ofKind kind) (Text.trim term),
        usageClauses (RelevanceProfile.ofKind kind) (Text.trim term), clauses⟩ := by
    rw [build, hclauses]
    rfl
  refine ⟨_, hbuild, fun doc => ?_, fun doc => ?_⟩
  · rw [holds_termQuery_iff, hfilters doc]
  · simp only [holds_termQuery_without_usage]

/-- Users found by a term, a filter on a bound name and one on a name that stands for itself. -/
theorem build_meaning_user :
    let filters := [Filter.allOf "email" ["ada*", "*.org"], Filter.anyOf "team" ["core", "data"]]
    (∀ filter ∈ filters, filter.operation = "AND" ∨ filter.operation = "OR") ∧
    ∃ query, build .user " ada\t" filters = .ok query ∧
      ∀ doc, holds doc query.toJson = true ↔
        (∃ field ∈ ["name", "first_name", "last_name", "team_name", "key"],
          doc.fullText field "ada" = true) ∧
        (doc.wildcard "key" "ada*" = true ∧ doc.wildcard "key" "*.org" = true) ∧
        (doc.wildcard "team" "core" = true ∨ doc.wildcard "team" "data" = true) := by
  intro filters
  have h : ∀ filter ∈ filters, filter.operation = "AND" ∨ filter.operation = "OR" := by decide
  obtain ⟨query, hquery, hmeaning, _⟩ := build_meaning .user " ada\t" filters h
  refine ⟨h, query, hquery, fun doc => ?_⟩
  have hterm : Text.trim " ada\t" = "ada" := by decide
  have hfields : (RelevanceProfile.ofKind .user).matchFields.map MatchField.field =
      ["name", "first_name", "last_name", "team_name", "key"] := rfl
  have hemail : (FieldTable.ofKind .user).engineField "email" = "key" := by decide
  have hteam : (FieldTable.ofKind .user).engineField "team" = "team" := by decide
  rw [hmeaning doc, ← hfields, hterm]
  simp [filters, Filter.Admits, Filter.allOf, Filter.anyOf, FilterMode.name, hemail, hteam]

end Query

end CatalogSearch
