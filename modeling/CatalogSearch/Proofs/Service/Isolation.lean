import CatalogSearch.Proofs.Response.Assembly
import CatalogSearch.Proofs.Service.Dispatch

/-!
# Kinds do not leak into each other

The items that an engine returns for a round are told apart by their places alone. Where every item
answers the search in its place (`Item.Answers`), each kind has the results of the item in the place
of its own search and nothing of the others.

`SearchResponse.find?_of_answers` says this of the assembled response, for outcomes that name each
kind once. The main theorem, `search_isolation`, follows it through the round, and compares two
answers of an engine: what a kind has does not change with the items in other places.
-/

namespace CatalogSearch

namespace Hit

/-- A document declares one kind at most. -/
theorem Declares.unique {hit : Hit} {kind other : ResourceKind} (h : hit.Declares kind)
    (hother : hit.Declares other) : kind = other := by
  rw [← declaredKind?_eq_some_iff] at h hother
  exact Option.some.inj (h.symm.trans hother)

end Hit

namespace Item

/-- An item answers the search for a kind: it is a reply, and its first document declares that kind
or none, if there is a document. -/
def Answers (item : Item) (kind : ResourceKind) : Prop :=
  ∃ reply, item = .success reply ∧
    ∀ hit, reply.hits.head? = some hit → hit.Declares kind ∨ ∀ other, ¬ hit.Declares other

/-- A reply that answers the search for a kind belongs to no other kind. -/
theorem Answers.eq_of_ofKind {reply : Reply} {searched kind : ResourceKind}
    (h : (success reply).Answers searched) (hkind : reply.OfKind searched kind) :
    kind = searched := by
  obtain ⟨hit, rest, hhits, hdeclares⟩ := hkind
  obtain ⟨_, heq, hfirst⟩ := h
  cases heq
  rcases hdeclares with hdeclares | ⟨rfl, -⟩
  · rcases hfirst hit (by rw [hhits]; rfl) with hsearched | hnone
    · exact hdeclares.unique hsearched
    · exact absurd hdeclares (hnone kind)
  · rfl

/-- A reply with documents that answers the search for a kind belongs to that kind. -/
theorem Answers.ofKind {reply : Reply} {searched : ResourceKind}
    (h : (success reply).Answers searched) (hhits : reply.hits ≠ []) :
    reply.OfKind searched searched := by
  obtain ⟨hit, rest, hhits⟩ := List.exists_cons_of_ne_nil hhits
  obtain ⟨_, heq, hfirst⟩ := h
  cases heq
  refine ⟨hit, rest, hhits, ?_⟩
  rcases hfirst hit (by rw [hhits]; rfl) with hsearched | hnone
  · exact Or.inl hsearched
  · exact Or.inr ⟨rfl, hnone⟩

end Item

/-- The results for a kind that come from one place of a round: the documents of the reply there, in
their order, and their total. A reply without documents yields no results, and neither does a place
without an item. -/
def KindResults.ofItem (kind : ResourceKind) : Option Item → KindResults
  | some (.success ⟨total, hit :: rest⟩) =>
    { entries := (hit :: rest).map (Hit.toEntry (FieldTable.ofKind kind))
      total := total.getD (UInt64.ofNat (hit :: rest).length) }
  | _ => .empty

/-- Every outcome answers the search for the kind it is paired with, and no kind is paired twice. -/
structure Separated (outcomes : List (ResourceKind × Item)) : Prop where
  distinct : outcomes.Pairwise fun outcome other => outcome.1 ≠ other.1
  answers : ∀ kind item, (kind, item) ∈ outcomes → item.Answers kind

namespace Separated

variable {outcomes : List (ResourceKind × Item)} {kind : ResourceKind}

/-- What is left of separated outcomes without the first one is separated. -/
theorem tail {outcome : ResourceKind × Item} (h : Separated (outcome :: outcomes)) :
    Separated outcomes :=
  ⟨(List.pairwise_cons.1 h.distinct).2,
    fun kind item hmem => h.answers kind item (List.mem_cons_of_mem _ hmem)⟩

/-- Only the reply to the search for a kind can be of that kind. -/
theorem mem_of_ofKind (h : Separated outcomes) {searched : ResourceKind} {reply : Reply}
    (hmem : (searched, .success reply) ∈ outcomes) (hkind : reply.OfKind searched kind) :
    (kind, .success reply) ∈ outcomes := by
  rw [(h.answers searched _ hmem).eq_of_ofKind hkind]
  exact hmem

/-- The reply to the search for a kind is the last one of the kind, if it has documents. -/
theorem lastReply (h : Separated outcomes) {reply : Reply}
    (hmem : (kind, .success reply) ∈ outcomes) (hhits : reply.hits ≠ []) :
    LastReply kind reply outcomes := by
  induction outcomes with
  | nil => cases hmem
  | cons outcome rest ih =>
    rcases List.mem_cons.1 hmem with rfl | hmem
    · refine .here ((h.answers kind _ List.mem_cons_self).ofKind hhits) ?_
      -- a later reply of the kind would stand for the same kind as this one
      intro searched later hlater hkind
      have hagain := h.tail.mem_of_ofKind hlater hkind
      exact (List.pairwise_cons.1 h.distinct).1 _ hagain rfl
    · exact .later (ih h.tail hmem)

/-- No reply is of a kind if the one to its search has no documents. -/
theorem noReply (h : Separated outcomes)
    (hempty : ∀ reply, (kind, .success reply) ∈ outcomes → reply.hits = []) :
    NoReply kind outcomes := by
  intro searched reply hmem hkind
  obtain ⟨hit, rest, hhits, -⟩ := id hkind
  have hnil := hempty reply (h.mem_of_ofKind hmem hkind)
  rw [hhits] at hnil
  cases hnil

end Separated

namespace SearchResponse

variable {pageIndex resultsPerPage : UInt64} {outcomes : List (ResourceKind × Item)}
  {requested : List ResourceKind} {response : SearchResponse}

/-- Separated outcomes have a response, which is the one that `Assembled` describes. -/
theorem exists_assembled (h : Separated outcomes) (pageIndex resultsPerPage : UInt64)
    (requested : List ResourceKind) :
    ∃ response, assemble pageIndex resultsPerPage outcomes requested = .ok response ∧
      Assembled pageIndex resultsPerPage outcomes requested response := by
  cases hassembled : assemble pageIndex resultsPerPage outcomes requested with
  | ok response => exact ⟨response, rfl, assembled_of_ok hassembled⟩
  | error failure =>
    -- the refusal would have to answer a search
    obtain ⟨before, after, houtcomes, -⟩ := addOutcomes_eq_error_iff.1 hassembled
    have hmem : (failure.kind, .failure failure.failures) ∈ outcomes := by
      rw [houtcomes]
      simp
    obtain ⟨reply, hreply, -⟩ := h.answers _ _ hmem
    cases hreply

/-- A requested kind has the results of the item it is paired with. -/
theorem find?_of_answers (h : Assembled pageIndex resultsPerPage outcomes requested response)
    (hseparated : Separated outcomes) {kind : ResourceKind} (hkind : kind ∈ requested) :
    response.results.find? kind = some (.ofItem kind (valueAt? kind outcomes)) := by
  cases hitem : valueAt? kind outcomes with
  | none =>
    refine h.of_none kind (hseparated.noReply fun reply hmem => ?_) hkind
    rw [(valueAt?_eq_some_iff hseparated.distinct).2 hmem] at hitem
    cases hitem
  | some item =>
    have hmem := (valueAt?_eq_some_iff hseparated.distinct).1 hitem
    obtain ⟨⟨total, hits⟩, rfl, -⟩ := hseparated.answers kind item hmem
    cases hits with
    | nil =>
      refine h.of_none kind (hseparated.noReply fun reply hother => ?_) hkind
      -- the kind is paired with this reply only
      rw [(valueAt?_eq_some_iff hseparated.distinct).2 hother] at hitem
      cases hitem
      rfl
    | cons hit rest => exact h.of_last kind _ (hseparated.lastReply hmem (List.cons_ne_nil _ _))

/-- The response to separated outcomes for requested kinds is about these kinds only. -/
theorem mem_keys_of_answers (h : Assembled pageIndex resultsPerPage outcomes requested response)
    (hseparated : Separated outcomes) (hrequested : ∀ outcome ∈ outcomes, outcome.1 ∈ requested)
    {kind : ResourceKind} : kind ∈ response.results.keys ↔ kind ∈ requested := by
  rw [h.mem_keys kind]
  refine ⟨?_, Or.inl⟩
  rintro (hkind | ⟨searched, reply, hmem, hkind⟩)
  · exact hkind
  · exact hrequested _ (hseparated.mem_of_ofKind hmem hkind)

end SearchResponse

/-- A pairing of different kinds with items names each kind once. -/
theorem distinct_zip {kinds : List ResourceKind} (h : kinds.Pairwise fun a b => a ≠ b)
    (items : List Item) :
    (kinds.zip items).Pairwise fun outcome other => outcome.1 ≠ other.1 := by
  induction kinds generalizing items with
  | nil => exact List.Pairwise.nil
  | cons first rest ih =>
    obtain ⟨hfirst, hrest⟩ := List.pairwise_cons.1 h
    cases items with
    | nil => exact List.Pairwise.nil
    | cons item others =>
      rw [List.zip_cons_cons]
      refine List.pairwise_cons.2 ⟨fun outcome houtcome => ?_, ih hrest others⟩
      exact hfirst outcome.1 (List.of_mem_zip houtcome).1

/-- A pairing of different kinds with items gives each kind the item in its own place. -/
theorem valueAt?_zip {kinds : List ResourceKind} (h : kinds.Pairwise fun a b => a ≠ b)
    {position : Nat} {kind : ResourceKind} (hkind : kinds[position]? = some kind)
    (items : List Item) : valueAt? kind (kinds.zip items) = items[position]? := by
  induction kinds generalizing position items with
  | nil => cases hkind
  | cons first rest ih =>
    obtain ⟨hfirst, hrest⟩ := List.pairwise_cons.1 h
    cases items with
    | nil => rfl
    | cons item others =>
      cases position with
      | zero =>
        obtain rfl : first = kind := Option.some.inj hkind
        simp [valueAt?]
      | succ place =>
        have hne : ¬ compare kind first = .eq := fun heq =>
          hfirst kind (List.mem_of_getElem? hkind) (Std.compare_eq_iff_eq.1 heq).symm
        rw [List.zip_cons_cons, valueAt?, if_neg hne, List.getElem?_cons_succ]
        exact ih hrest hkind others

namespace Catalog

variable {σ : Type} {catalog : Catalog σ} {request : SearchRequest} {calls : List SearchCall}
  {items : List Item}

/-- The search for a kind stands at a place of a round. -/
def Places (catalog : Catalog σ) (calls : List SearchCall) (kind : ResourceKind)
    (position : Nat) : Prop :=
  ∃ call, calls[position]? = some call ∧ call.index = catalog.index kind

/-- Every item answers the search in its place; items beyond the round may be anything. -/
def Answered (catalog : Catalog σ) (calls : List SearchCall) (items : List Item) : Prop :=
  ∀ kind position item, catalog.Places calls kind position → items[position]? = some item →
    item.Answers kind

/-- The searches of a round stand in the order of the kinds that are searched. -/
theorem places_searchCalls_iff (h : ∀ filter ∈ request.filters, filter.Known)
    {kind : ResourceKind} {position : Nat} :
    catalog.Places (catalog.searchCalls request) kind position ↔
      request.effectiveKinds[position]? = some kind := by
  obtain ⟨queries, hqueries⟩ := Query.exists_build request.term h
  rw [searchCalls_eq_map hqueries]
  constructor
  · rintro ⟨call, hcall, hindex⟩
    rw [List.getElem?_map] at hcall
    obtain ⟨other, hother, rfl⟩ := Option.map_eq_some_iff.1 hcall
    rw [hother, index_inj hindex]
  · intro hkind
    exact ⟨_, by rw [List.getElem?_map, hkind]; rfl, rfl⟩

/-- No kind is searched twice. -/
theorem effectiveKinds_distinct (request : SearchRequest) :
    request.effectiveKinds.Pairwise fun a b => a ≠ b := by
  refine request.effectiveKinds_ascending.imp ?_
  intro kind other hlt heq
  rw [heq, Std.compare_self] at hlt
  cases hlt

/-- Items that answer a round are separated by the kinds of its searches. -/
theorem separated_of_answered (h : ∀ filter ∈ request.filters, filter.Known)
    (hitems : catalog.Answered (catalog.searchCalls request) items) :
    Separated (request.effectiveKinds.zip items) := by
  refine ⟨distinct_zip (effectiveKinds_distinct request) items, ?_⟩
  intro kind item hmem
  obtain ⟨position, hposition⟩ := List.mem_iff_getElem?.1 hmem
  obtain ⟨hkind, hitem⟩ := List.getElem?_zip_eq_some.1 hposition
  exact hitems kind position item ((places_searchCalls_iff h).2 hkind) hitem

/-- The response to a round whose items answer it: it is about the kinds that the request covers,
and each has the results from the place of its search. -/
theorem search_of_answered (h : ∀ filter ∈ request.filters, filter.Known) {state : σ}
    (hanswer : (catalog.engine.multiSearch (catalog.searchCalls request) state).1 = .ok items)
    (hitems : catalog.Answered (catalog.searchCalls request) items) :
    ∃ response, (catalog.search request state).1 = .ok response ∧
      (∀ kind, kind ∈ response.results.keys ↔ request.Covers kind) ∧
      ∀ kind position, catalog.Places (catalog.searchCalls request) kind position →
        response.results.find? kind = some (.ofItem kind items[position]?) := by
  have hseparated := separated_of_answered h hitems
  obtain ⟨response, hresponse, hassembled⟩ := SearchResponse.exists_assembled hseparated
    request.pageIndex (catalog.pageSize request.resultsPerPage) request.effectiveKinds
  refine ⟨response, ?_, fun kind => ?_, fun kind position hplace => ?_⟩
  · rw [search_apply catalog request h]
    simp only [SearchRequest.respond, hanswer, paired, hresponse]
    rfl
  · rw [SearchResponse.mem_keys_of_answers hassembled hseparated
      fun outcome houtcome => (List.of_mem_zip houtcome).1]
    exact SearchRequest.mem_effectiveKinds_iff
  · have hkind := (places_searchCalls_iff h).1 hplace
    rw [SearchResponse.find?_of_answers hassembled hseparated (List.mem_of_getElem? hkind),
      valueAt?_zip (effectiveKinds_distinct request) hkind]

/-- A search whose items answer it in their places, be they more or fewer than the searches, has a
response about exactly the kinds that the request covers. Each of these has a place in the round,
and its results are those of the item in that place: the documents of the reply there in their
order, and their total, or no results where there is no item. Another answer of the engine with the
same item in that place, whatever it holds elsewhere or beyond the round, leaves them as they
are. -/
theorem search_isolation (h : ∀ filter ∈ request.filters, filter.Known) {state : σ}
    (hanswer : (catalog.engine.multiSearch (catalog.searchCalls request) state).1 = .ok items)
    (hitems : catalog.Answered (catalog.searchCalls request) items) :
    let calls := catalog.searchCalls request
    ∃ response, (catalog.search request state).1 = .ok response ∧
      (∀ kind, kind ∈ response.results.keys ↔ request.Covers kind) ∧
      (∀ kind, request.Covers kind → ∃ position, catalog.Places calls kind position) ∧
      ∀ kind position, catalog.Places calls kind position →
        response.results.find? kind = some (.ofItem kind items[position]?) ∧
        ∀ elsewhere others, (catalog.engine.multiSearch calls elsewhere).1 = .ok others →
          catalog.Answered calls others → others[position]? = items[position]? →
          ∃ other, (catalog.search request elsewhere).1 = .ok other ∧
            other.results.find? kind = response.results.find? kind := by
  intro calls
  obtain ⟨response, hresponse, hkeys, hresults⟩ := search_of_answered h hanswer hitems
  refine ⟨response, hresponse, hkeys, ?_, fun kind position hplace => ?_⟩
  · intro kind hkind
    obtain ⟨position, hposition⟩ :=
      List.mem_iff_getElem?.1 (SearchRequest.mem_effectiveKinds_iff.2 hkind)
    exact ⟨position, (places_searchCalls_iff h).2 hposition⟩
  · refine ⟨hresults kind position hplace, fun elsewhere others hother hothers hsame => ?_⟩
    obtain ⟨other, hsearch, -, hfind⟩ := search_of_answered h hother hothers
    refine ⟨other, hsearch, ?_⟩
    rw [hfind kind position hplace, hresults kind position hplace, hsame]

/-- Tables are found whatever stands in the place of the users, and beyond the round. -/
theorem search_isolation_table :
    let catalog := Session.catalog .standard
    let request : SearchRequest := ⟨"ada", 0, 0, [.user, .table], [.anyOf "team" ["core"]]⟩
    let document (kind : String) : Hit :=
      ⟨"any", some "1", none, some (.object [("resource_type", .text kind)])⟩
    let tables := Item.success ⟨some 7, [document "Table", document "user"]⟩
    let users := Item.success ⟨none, [document "unknown"]⟩
    ∃ response other,
      (catalog.search request (InMemory.fresh.enqueue (.ok [tables, users]))).1 = .ok response ∧
      (catalog.search request
        (InMemory.fresh.enqueue (.ok [tables, .success ⟨none, []⟩, .failure .null]))).1 =
          .ok other ∧
      response.results.find? .table = some (.ofItem .table (some tables)) ∧
      other.results.find? .table = response.results.find? .table := by
  intro catalog request document tables users
  have h : ∀ filter ∈ request.filters, filter.Known := by decide
  have htables : tables.Answers .table :=
    ⟨_, rfl, fun hit hhit => by cases hhit; exact Or.inl ⟨"Table", rfl, by decide⟩⟩
  have hunknown : ∀ kind, ¬ (document "unknown").Declares kind := by
    rintro kind ⟨text, htext, hname⟩
    cases htext
    revert hname
    cases kind <;> decide
  have husers : users.Answers .user :=
    ⟨_, rfl, fun hit hhit => by cases hhit; exact Or.inr hunknown⟩
  have hempty : (Item.success ⟨none, []⟩).Answers .user := ⟨_, rfl, fun _ hhit => nomatch hhit⟩
  -- the round has one search for tables and then one for users
  have hanswered : ∀ user rest, Item.Answers user .user →
      catalog.Answered (catalog.searchCalls request) (tables :: user :: rest) := by
    intro user rest huser kind position item hplace hitem
    have hkind := (places_searchCalls_iff h).1 hplace
    match position with
    | 0 =>
      cases hkind
      cases hitem
      exact htables
    | 1 =>
      cases hkind
      cases hitem
      exact huser
    | place + 2 => cases hkind
  have hanswer : (catalog.engine.multiSearch (catalog.searchCalls request)
      (InMemory.fresh.enqueue (.ok [tables, users]))).1 = .ok [tables, users] := rfl
  obtain ⟨response, hresponse, -, -, hresults⟩ :=
    search_isolation h hanswer (hanswered users [] husers)
  obtain ⟨hfind, hsame⟩ := hresults .table 0 ((places_searchCalls_iff h).2 rfl)
  obtain ⟨other, hother, hequal⟩ := hsame
    (InMemory.fresh.enqueue (.ok [tables, .success ⟨none, []⟩, .failure .null]))
    _ rfl (hanswered _ _ hempty) rfl
  exact ⟨response, other, hresponse, hother, hfind, hequal⟩

end Catalog

end CatalogSearch
