import CatalogSearch.Proofs.Query.Translation
import CatalogSearch.Proofs.Service.Round

/-!
# What a search asks of the engine

A search with known filters is one round: `Catalog.search_apply` reduces it to one call of an
engine, any engine, and to what the request makes of the answer. A search with a filter that is not
known does nothing at all (`Catalog.search_of_unknown`).

The main theorem, `search_dispatch`, says which searches the round consists of: one for each kind
that the request covers, in the order of kinds, each against an index of its own and all for one
page. It follows that the pages of a search lie one behind the other, and that a request is the
same whatever the order in which it names its kinds and however often it names one.
-/

namespace CatalogSearch

namespace SearchRequest

/-- The kinds that a request covers: those that it names, or every one when it names none. -/
def Covers (request : SearchRequest) (kind : ResourceKind) : Prop :=
  request.kinds = [] ∨ kind ∈ request.kinds

/-- Whether a request covers a kind can be decided by looking for it. -/
instance (request : SearchRequest) (kind : ResourceKind) : Decidable (request.Covers kind) :=
  inferInstanceAs (Decidable (_ ∨ _))

/-- The kinds to search are those that the request covers, in their order. -/
theorem effectiveKinds_eq_filter (request : SearchRequest) :
    request.effectiveKinds = ResourceKind.all.filter fun kind => request.Covers kind := by
  unfold effectiveKinds Covers
  by_cases h : request.kinds = []
  · simp only [h, List.isEmpty_nil, if_true, true_or, decide_true]
    exact (List.filter_eq_self.2 fun _ _ => rfl).symm
  · simp [h]

/-- A kind is searched when the request covers it. -/
theorem mem_effectiveKinds_iff {request : SearchRequest} {kind : ResourceKind} :
    kind ∈ request.effectiveKinds ↔ request.Covers kind := by
  rw [effectiveKinds_eq_filter, List.mem_filter, decide_eq_true_iff]
  exact and_iff_right kind.mem_all

/-- Every request covers some kind. -/
theorem effectiveKinds_ne_nil (request : SearchRequest) : request.effectiveKinds ≠ [] := by
  have hcovers : ∃ kind, request.Covers kind := by
    cases hkinds : request.kinds with
    | nil => exact ⟨.table, Or.inl hkinds⟩
    | cons kind rest => exact ⟨kind, Or.inr (by rw [hkinds]; exact List.mem_cons_self)⟩
  obtain ⟨kind, hkind⟩ := hcovers
  exact List.ne_nil_of_mem (mem_effectiveKinds_iff.2 hkind)

/-- The kinds to search stand in their order. -/
theorem effectiveKinds_ascending (request : SearchRequest) :
    request.effectiveKinds.Pairwise fun a b => compare a b = .lt := by
  have hall : ResourceKind.all.Pairwise fun a b => compare a b = .lt := by decide
  rw [effectiveKinds_eq_filter]
  exact hall.sublist List.filter_sublist

/-- Requests that cover the same kinds search the same kinds. -/
theorem effectiveKinds_congr {request other : SearchRequest}
    (h : ∀ kind, other.Covers kind ↔ request.Covers kind) :
    other.effectiveKinds = request.effectiveKinds := by
  rw [effectiveKinds_eq_filter, effectiveKinds_eq_filter]
  exact List.filter_congr fun kind _ => decide_eq_decide.2 (h kind)

/-- What a request makes of the answer to its round: the response to the items, or the refusal
among them; a round that failed as a whole counts as one without items. -/
def respond {ε : Type} (request : SearchRequest) (size : UInt64) (answer : Except ε (List Item)) :
    Except SearchFailure SearchResponse :=
  (SearchResponse.assemble request.pageIndex size (Catalog.paired request.effectiveKinds answer)
    request.effectiveKinds).mapError .engine

/-- A round that failed as a whole has no results, for no kind. -/
theorem respond_error {ε : Type} (request : SearchRequest) (size : UInt64) (error : ε) :
    request.respond size (.error error) =
      .ok (.emptySuccess request.pageIndex size request.effectiveKinds) := rfl

/-- What is wrong with an answer is never an internal matter. -/
theorem respond_ne_internal {ε : Type} (request : SearchRequest) (size : UInt64)
    (answer : Except ε (List Item)) (error : InternalError) :
    request.respond size answer ≠ .error (.internal error) := by
  unfold respond
  generalize SearchResponse.assemble _ _ _ _ = assembled
  cases assembled with
  | ok response => exact fun h => nomatch h
  | error failure => exact fun h => nomatch h

end SearchRequest

/-! ## Pages -/

/-- The first result of a page, unless it lies beyond the greatest number that can be told. -/
theorem toNat_pageOffset (pageIndex size : UInt64) :
    (pageOffset pageIndex size).toNat = min (pageIndex.toNat * size.toNat) (UInt64.size - 1) := by
  unfold pageOffset
  split
  · rename_i hfits
    rw [UInt64.toNat_mul, Nat.mod_eq_of_lt hfits]
    omega
  · rename_i hbeyond
    have hlast : (UInt64.ofNat (UInt64.size - 1)).toNat = UInt64.size - 1 := by decide
    omega

/-- A later page does not begin before an earlier one. -/
theorem pageOffset_le {first later : UInt64} (h : first ≤ later) (size : UInt64) :
    pageOffset first size ≤ pageOffset later size := by
  have hle : first.toNat * size.toNat ≤ later.toNat * size.toNat :=
    Nat.mul_le_mul_right size.toNat (UInt64.le_iff_toNat_le.1 h)
  rw [UInt64.le_iff_toNat_le, toNat_pageOffset, toNat_pageOffset]
  omega

/-- A page whose first result can be told begins where the page before it ends. -/
theorem toNat_pageOffset_next {page next : UInt64} (hnext : next.toNat = page.toNat + 1)
    {size : UInt64} (hfits : next.toNat * size.toNat < UInt64.size) :
    (pageOffset next size).toNat = (pageOffset page size).toNat + size.toNat := by
  have hmul : next.toNat * size.toNat = page.toNat * size.toNat + size.toNat := by
    rw [hnext, Nat.add_mul, Nat.one_mul]
  rw [toNat_pageOffset, toNat_pageOffset]
  omega

/-! ## Rounds -/

/-- The round of searches that a request asks for, under a configuration: one search for each kind
that it covers, in the order of kinds, against the index of the kind and with its query, and all
for the same slice of their results. -/
structure SearchRequest.Round (request : SearchRequest) (config : CatalogConfig)
    (kinds : List ResourceKind) (queries : ResourceKind → Query) (offset size : UInt64)
    (calls : List SearchCall) : Prop where
  ordered : kinds.Sublist [.table, .dashboard, .feature, .user]
  mem_iff : ∀ kind, kind ∈ kinds ↔ request.Covers kind
  built : ∀ kind ∈ kinds, Query.build kind request.term request.filters = .ok (queries kind)
  size_eq : size =
    if request.resultsPerPage = 0 then config.defaultPageSize else request.resultsPerPage
  offset_eq : offset.toNat = min (request.pageIndex.toNat * size.toNat) (UInt64.size - 1)
  calls_eq : calls = kinds.map fun kind =>
    ⟨kind.name ++ config.indexSuffix, (queries kind).toJson, offset, size⟩

namespace Catalog

/-- The indices of different kinds are different, whatever the suffix. -/
theorem index_inj {σ : Type} {catalog : Catalog σ} {kind other : ResourceKind}
    (h : catalog.index kind = catalog.index other) : kind = other := by
  have hname : kind.name = other.name := (String.append_left_inj _).1 h
  have hread := congrArg ResourceKind.ofName? hname
  rw [ResourceKind.ofName?_name, ResourceKind.ofName?_name] at hread
  exact Option.some.inj hread

variable {σ : Type} {catalog : Catalog σ} {request : SearchRequest}

/-- The searches of a round for a request; none if a filter is not known. -/
def searchCalls (catalog : Catalog σ) (request : SearchRequest) : List SearchCall :=
  match Query.buildAll request.effectiveKinds request.term request.filters with
  | .ok queries =>
    catalog.calls queries request.pageIndex (catalog.pageSize request.resultsPerPage)
  | .error _ => []

/-- The round for a request has one search for each kind, in order. -/
theorem searchCalls_eq_map {queries : ResourceKind → Query}
    (h : ∀ kind, Query.build kind request.term request.filters = .ok (queries kind)) :
    catalog.searchCalls request = request.effectiveKinds.map fun kind =>
      { index := catalog.index kind
        query := (queries kind).toJson
        offset := pageOffset request.pageIndex (catalog.pageSize request.resultsPerPage)
        size := catalog.pageSize request.resultsPerPage } := by
  obtain ⟨map, hmap, hentries⟩ := Query.buildAll_eq_ok request.effectiveKinds_ascending h
  rw [searchCalls, hmap]
  simp only [calls, hentries, List.map_map]
  rfl

/-- A search with known filters is one call of the engine. -/
theorem search_apply (catalog : Catalog σ) (request : SearchRequest)
    (h : ∀ filter ∈ request.filters, filter.Known) (state : σ) :
    catalog.search request state =
      let answer := catalog.engine.multiSearch (catalog.searchCalls request) state
      (request.respond (catalog.pageSize request.resultsPerPage) answer.1, answer.2) := by
  obtain ⟨queries, hqueries⟩ := Query.exists_build request.term h
  obtain ⟨map, hmap, hentries⟩ := Query.buildAll_eq_ok request.effectiveKinds_ascending hqueries
  have hkeys : map.keys = request.effectiveKinds := by
    simp [OrderedMap.keys, hentries, Function.comp_def]
  have hne : map.entries ≠ [] := by
    rw [hentries]
    exact mt List.map_eq_nil_iff.1 request.effectiveKinds_ne_nil
  have hcalls : catalog.searchCalls request =
      catalog.calls map request.pageIndex (catalog.pageSize request.resultsPerPage) := by
    rw [searchCalls, hmap]
  simp only [search, hmap, bind_apply, execute_apply catalog hne, hkeys, hcalls]
  unfold SearchRequest.respond
  generalize SearchResponse.assemble _ _ _ _ = assembled
  cases assembled <;> rfl

/-- All searches of a round are for the same page. -/
theorem slice_of_mem_searchCalls {call : SearchCall} (h : call ∈ catalog.searchCalls request) :
    call.offset = pageOffset request.pageIndex (catalog.pageSize request.resultsPerPage) ∧
      call.size = catalog.pageSize request.resultsPerPage := by
  unfold searchCalls at h
  split at h
  · obtain ⟨entry, -, rfl⟩ := List.mem_map.1 h
    exact ⟨rfl, rfl⟩
  · cases h

/-- The searches of a round are against different indices. -/
theorem searchCalls_index_ne {queries : ResourceKind → Query}
    (h : ∀ kind, Query.build kind request.term request.filters = .ok (queries kind)) :
    (catalog.searchCalls request).Pairwise fun call other => call.index ≠ other.index := by
  rw [searchCalls_eq_map h, List.pairwise_map]
  refine request.effectiveKinds_ascending.imp ?_
  intro kind other hlt hindex
  rw [index_inj hindex, Std.compare_self] at hlt
  cases hlt

/-- A search with a filter that is not known reports the first such filter, and leaves the engine
alone. -/
theorem search_of_unknown (catalog : Catalog σ) {before after : List Filter} {filter : Filter}
    (hfilters : request.filters = before ++ filter :: after)
    (hbefore : ∀ other ∈ before, other.Known) (h : ¬ filter.Known) (state : σ) :
    catalog.search request state = (.error (.invalidFilter ⟨filter⟩), state) := by
  have hinvalid : Query.buildAll request.effectiveKinds request.term request.filters =
      .error ⟨filter⟩ := by
    rw [hfilters]
    exact Query.buildAll_eq_error request.effectiveKinds_ne_nil request.term hbefore h
  rw [search, hinvalid]
  rfl

/-- The round for a request is the one that it asks for. -/
theorem exists_round (catalog : Catalog σ) (request : SearchRequest)
    (h : ∀ filter ∈ request.filters, filter.Known) :
    ∃ kinds queries offset, request.Round catalog.config kinds queries offset
      (catalog.pageSize request.resultsPerPage) (catalog.searchCalls request) := by
  obtain ⟨queries, hqueries⟩ := Query.exists_build request.term h
  have hordered : request.effectiveKinds.Sublist ResourceKind.all := by
    rw [SearchRequest.effectiveKinds_eq_filter]
    exact List.filter_sublist
  exact ⟨request.effectiveKinds, queries, _, hordered,
    fun _ => SearchRequest.mem_effectiveKinds_iff, fun kind _ => hqueries kind, rfl,
    toNat_pageOffset _ _, searchCalls_eq_map hqueries⟩

/-- A request asks for the same whatever the order in which it names its kinds, and however often
it names one. -/
theorem search_congr (catalog : Catalog σ) {kinds : List ResourceKind}
    (h : ∀ kind, { request with kinds := kinds }.Covers kind ↔ request.Covers kind) :
    catalog.searchCalls { request with kinds := kinds } = catalog.searchCalls request ∧
      catalog.search { request with kinds := kinds } = catalog.search request := by
  have hkinds := SearchRequest.effectiveKinds_congr h
  constructor
  · simp only [searchCalls, hkinds]
  · simp only [search, hkinds]

/-- A search with known filters is one round of the engine, the one that its request asks for, and
what it answers depends on nothing but the answer to that round. The searches of the round are
against different indices. Its page does not begin before the pages with smaller numbers, and the
next page, if its beginning can be told, begins where this one ends. A request that covers the same
kinds, in whatever order and however often it names them, has the same round, the same answer and
the same effect. -/
theorem search_dispatch (catalog : Catalog σ) (request : SearchRequest)
    (h : ∀ filter ∈ request.filters, filter.Known) :
    let calls := catalog.searchCalls request
    let size := catalog.pageSize request.resultsPerPage
    (∀ state, catalog.search request state =
      let answer := catalog.engine.multiSearch calls state
      (request.respond size answer.1, answer.2)) ∧
    (∀ state : InMemory, ((Session.catalog catalog.config).search request state).2.searches =
      state.searches ++ [calls]) ∧
    (∃ kinds queries offset, request.Round catalog.config kinds queries offset size calls) ∧
    calls.Pairwise (fun call other => call.index ≠ other.index) ∧
    (∀ page, request.pageIndex ≤ page →
      ∀ call ∈ calls, ∀ later ∈ catalog.searchCalls { request with pageIndex := page },
        call.offset ≤ later.offset) ∧
    (∀ page, page.toNat = request.pageIndex.toNat + 1 → page.toNat * size.toNat < UInt64.size →
      ∀ call ∈ calls, ∀ next ∈ catalog.searchCalls { request with pageIndex := page },
        next.offset.toNat = call.offset.toNat + call.size.toNat) ∧
    (∀ kinds, (∀ kind, { request with kinds := kinds }.Covers kind ↔ request.Covers kind) →
      catalog.searchCalls { request with kinds := kinds } = calls ∧
        ∀ state, catalog.search { request with kinds := kinds } state =
          catalog.search request state) := by
  intro calls size
  obtain ⟨queries, hqueries⟩ := Query.exists_build request.term h
  refine ⟨search_apply catalog request h, ?recorded, exists_round catalog request h,
    searchCalls_index_ne hqueries, ?later, ?next, ?same⟩
  case recorded =>
    intro state
    rw [search_apply _ request h, Session.catalog_engine, InMemory.multiSearch_apply]
    rfl
  case later =>
    intro page hpage call hcall later hlater
    rw [(slice_of_mem_searchCalls hcall).1, (slice_of_mem_searchCalls hlater).1]
    exact pageOffset_le hpage size
  case next =>
    intro page hpage hfits call hcall next hnext
    obtain ⟨hoffset, hsize⟩ := slice_of_mem_searchCalls hcall
    rw [(slice_of_mem_searchCalls hnext).1, hoffset, hsize]
    exact toNat_pageOffset_next hpage hfits
  case same =>
    intro kinds hkinds
    obtain ⟨hcalls, hsearch⟩ := search_congr catalog hkinds
    exact ⟨hcalls, fun state => congrFun hsearch state⟩

/-- The third page of a search for users and tables, who are named in another order and twice. -/
theorem search_dispatch_tables_and_users :
    let request : SearchRequest := ⟨"ada", 2, 0, [.user, .table, .user], [.anyOf "team" ["core"]]⟩
    let catalog := Session.catalog .standard
    (∀ filter ∈ request.filters, filter.Known) ∧
    (catalog.searchCalls request).map (fun call => (call.index, call.offset, call.size)) =
      [("table_search_index", 20, 10), ("user_search_index", 20, 10)] ∧
    ∀ state, catalog.search { request with kinds := [.table, .user] } state =
      catalog.search request state := by
  intro request catalog
  have h : ∀ filter ∈ request.filters, filter.Known := by decide
  obtain ⟨-, -, -, -, -, -, hsame⟩ := search_dispatch catalog request h
  refine ⟨h, by decide, ?_⟩
  have hcovers : ∀ kind, { request with kinds := [.table, .user] }.Covers kind ↔
      request.Covers kind := by
    intro kind
    cases kind <;> decide
  exact (hsame [.table, .user] hcovers).2

end Catalog

end CatalogSearch
