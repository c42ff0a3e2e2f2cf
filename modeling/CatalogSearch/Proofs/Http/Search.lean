import CatalogSearch.Http.Scripted
import CatalogSearch.Proofs.Json.Reading
import CatalogSearch.Proofs.Service.Dispatch

/-!
# Searching over HTTP

A search over HTTP is a search in memory, as far as the server's reply can be read as a whole.
`Item.ReadAs` says what one entry of a reply stands for, and `Http.Reply.Carries` when a reply
stands for a list of items; `Client.multiSearch_eq_ok_iff` says that a round over HTTP yields the
items that the reply carries, and nothing otherwise.

The main theorem, `search_over_http`, follows: the answer to a search is the one that the engine in
memory gives from the same items, or the empty response when the reply carries none. Which replies
report a failure is decided by their status, from 400 up to 599;
`search_over_http_status_beyond` shows that a status beyond that range is none.
-/

namespace CatalogSearch

namespace Item

/-- The entries of the record that a text holds. -/
def entriesOfText? (text : String) : Option (List Json) := do
  let document ← Json.Document.ofText? text
  let responses ← responsesDocument? document
  let value ← responses.toJson? (Json.maxLevels - 1)
  value.list? some

/-- The items of a text are those of its entries. -/
theorem listOfText?_eq_bind (text : String) :
    listOfText? text = (entriesOfText? text).bind (List.mapM ofJson?) := by
  simp only [listOfText?, entriesOfText?, Option.bind_eq_bind, Option.bind_assoc]

/-- What an entry of a record stands for: an object with an error member for a refusal that carries
this member, whatever else the object holds, and any other value for the reply that it is read
as. -/
inductive ReadAs : (entry : Json) → (item : Item) → Prop where
  | refusal {members : List (String × Json)} {failures : Json} :
      valueAt? "error" members = some failures → ReadAs (.object members) (.failure failures)
  | reply {entry : Json} {reply : Reply} :
      (∀ members, entry = .object members → valueAt? "error" members = none) →
      Reply.ofJson? entry = some reply → ReadAs entry (.success reply)

/-- An entry is read as the item that it stands for. -/
theorem ofJson?_eq_some_iff {entry : Json} {item : Item} :
    ofJson? entry = some item ↔ ReadAs entry item := by
  unfold ofJson?
  constructor
  · intro h
    split at h
    · rename_i failures herror
      cases h
      cases entry with
      | object members => exact .refusal herror
      | _ => cases herror
    · rename_i herror
      obtain ⟨reply, hreply, rfl⟩ := Option.map_eq_some_iff.1 h
      refine .reply ?_ hreply
      rintro members rfl
      exact herror
  · intro h
    cases h with
    | refusal herror =>
      simp only [Json.member?, herror]
    | reply hnone hreply =>
      have herror : entry.member? "error" = none := by
        cases entry with
        | object members => exact hnone members rfl
        | _ => rfl
      simp only [herror, hreply, Option.map_some]

/-- Entries are read as items when every entry is, as the item in its place. -/
theorem mapM_ofJson?_eq_some_iff {entries : List Json} {items : List Item} :
    entries.mapM ofJson? = some items ↔ items.length = entries.length ∧
      ∀ (position : Nat) (entry : Json) (item : Item), entries[position]? = some entry →
        items[position]? = some item → ReadAs entry item := by
  induction entries generalizing items with
  | nil =>
    rw [List.mapM_nil]
    constructor
    · intro h
      cases h
      exact ⟨rfl, fun _ _ _ hentry => nomatch hentry⟩
    · rintro ⟨hlength, -⟩
      rw [List.length_eq_zero_iff.1 hlength]
      rfl
  | cons first rest ih =>
    rw [mapM_cons_eq_some_iff]
    constructor
    · rintro ⟨item, hitem, others, hothers, rfl⟩
      obtain ⟨hlength, hread⟩ := ih.1 hothers
      refine ⟨by simp [hlength], fun position => ?_⟩
      cases position with
      | zero =>
        intro entry other hentry hother
        cases hentry
        cases hother
        exact ofJson?_eq_some_iff.1 hitem
      | succ place => exact hread place
    · rintro ⟨hlength, hread⟩
      cases items with
      | nil => cases hlength
      | cons item others =>
        refine ⟨item, ofJson?_eq_some_iff.2 (hread 0 first item rfl rfl), others, ih.2 ⟨?_, ?_⟩, rfl⟩
        · exact Nat.succ.inj hlength
        · exact fun place entry other hentry hother =>
            hread (place + 1) entry other hentry hother

end Item

namespace Http

/-- A reply carries items for a number of searches: its status reports no failure, and its body is a
record with one entry for each search, every one of which stands for the item in its place. -/
structure Reply.Carries (reply : Reply) (count : Nat) (items : List Item) : Prop where
  status : reply.status < 400 ∨ 600 ≤ reply.status
  entries : ∃ entries, Item.entriesOfText? reply.body = some entries ∧ entries.length = count ∧
    items.length = count ∧ ∀ (position : Nat) (entry : Json) (item : Item),
      entries[position]? = some entry → items[position]? = some item → Item.ReadAs entry item

/-- A reply is accepted, as it is, when its status reports no failure. -/
theorem Reply.accepted_eq_ok_iff {reply kept : Reply} {url : Url} :
    reply.accepted url = .ok kept ↔ (reply.status < 400 ∨ 600 ≤ reply.status) ∧ reply = kept := by
  have hfailed : (reply.isClientError || reply.isServerError) = true ↔
      ¬ (reply.status < 400 ∨ 600 ≤ reply.status) := by
    simp only [isClientError, isServerError, Bool.or_eq_true, Bool.and_eq_true, decide_eq_true_eq]
    omega
  unfold accepted
  split
  · rename_i h
    simp [hfailed.1 h]
  · rename_i h
    have hstatus : reply.status < 400 ∨ 600 ≤ reply.status := by
      false_or_by_contra
      exact h (hfailed.2 ‹_›)
    simp [hstatus]

/-- The outcomes of some searches are those in the body of the reply, if there are as many. -/
theorem outcomes_eq_ok_iff {calls : List SearchCall} {reply : Reply} {items : List Item} :
    outcomes calls reply = .ok items ↔
      Item.listOfText? reply.body = some items ∧ items.length = calls.length := by
  unfold outcomes
  cases hitems : Item.listOfText? reply.body with
  | none => simp
  | some read =>
    by_cases hlength : read.length = calls.length
    · simp only [if_pos hlength, Except.ok.injEq, Option.some.injEq]
      exact ⟨fun h => ⟨h, h ▸ hlength⟩, And.left⟩
    · simp only [if_neg hlength, Option.some.injEq, reduceCtorEq, false_iff, not_and]
      rintro rfl
      exact hlength

/-- An accepted reply has the outcomes that it carries. -/
theorem Reply.carries_iff {reply : Reply} {calls : List SearchCall} {items : List Item} :
    reply.Carries calls.length items ↔
      (reply.status < 400 ∨ 600 ≤ reply.status) ∧ outcomes calls reply = .ok items := by
  rw [outcomes_eq_ok_iff, Item.listOfText?_eq_bind, Option.bind_eq_some_iff]
  constructor
  · rintro ⟨hstatus, entries, hentries, hcount, hlength, hread⟩
    refine ⟨hstatus, ⟨entries, hentries, Item.mapM_ofJson?_eq_some_iff.2 ⟨?_, hread⟩⟩, hlength⟩
    rw [hlength, hcount]
  · rintro ⟨hstatus, ⟨entries, hentries, hitems⟩, hlength⟩
    obtain ⟨hsame, hread⟩ := Item.mapM_ofJson?_eq_some_iff.1 hitems
    exact ⟨hstatus, entries, hentries, hsame ▸ hlength, hlength, hread⟩

namespace Client

variable {τ : Type}

/-- The catalog whose engine is reached over HTTP. -/
def catalog (client : Client τ) (config : CatalogConfig) : Catalog τ := ⟨client.engine, config⟩

/-- A round of the catalog is one of the client. -/
@[simp] theorem catalog_multiSearch (client : Client τ) (config : CatalogConfig) :
    (client.catalog config).engine.multiSearch = client.multiSearch := rfl

/-- The request that carries a round of searches. -/
def searchRequest (client : Client τ) (url : Url) (calls : List SearchCall) : Request :=
  client.request .post url ["application/x-ndjson"] (searchBody calls)

/-- The server's reply to a round of searches, if the engine has a URL for them and a reply
comes. -/
def searchReply? (client : Client τ) (calls : List SearchCall) (state : τ) : Option Reply :=
  match client.endpoint ["_msearch"] with
  | .ok url => (client.transport.send (client.searchRequest url calls) state).1
  | .error _ => none

/-- A round over HTTP is one exchange, and its outcomes are those of the reply. -/
theorem multiSearch_of_endpoint {client : Client τ} {url : Url}
    (h : client.endpoint ["_msearch"] = .ok url) (calls : List SearchCall) (state : τ) :
    client.multiSearch calls state =
      let sent := client.transport.send (client.searchRequest url calls) state
      (match sent.1 with
        | none => .error (transportError (client.searchRequest url calls).url)
        | some reply => reply.accepted (client.searchRequest url calls).url >>= outcomes calls,
        sent.2) := by
  rw [multiSearch, h]
  dsimp only
  rw [Catalog.bind_apply, exchange, Catalog.bind_apply, ← searchRequest]
  generalize client.transport.send (client.searchRequest url calls) state = sent
  obtain ⟨answer, after⟩ := sent
  cases answer with
  | none => rfl
  | some reply =>
    simp only [Catalog.pure_apply]
    cases reply.accepted (client.searchRequest url calls).url <;> rfl

/-- A round over HTTP yields the items that the reply carries. -/
theorem multiSearch_eq_ok_iff {client : Client τ} {calls : List SearchCall} {state : τ}
    {items : List Item} :
    (client.multiSearch calls state).1 = .ok items ↔
      ∃ reply, client.searchReply? calls state = some reply ∧
        reply.Carries calls.length items := by
  unfold searchReply?
  cases hurl : client.endpoint ["_msearch"] with
  | error error => simp [multiSearch, hurl, Catalog.pure_apply]
  | ok url =>
    rw [multiSearch_of_endpoint hurl]
    simp only
    cases (client.transport.send (client.searchRequest url calls) state).1 with
    | none => simp
    | some reply =>
      simp only [Option.some.injEq, exists_eq_left', Reply.carries_iff]
      cases haccepted : reply.accepted (client.searchRequest url calls).url with
      | error error =>
        have hstatus : ¬ (reply.status < 400 ∨ 600 ≤ reply.status) := by
          intro hstatus
          rw [Reply.accepted_eq_ok_iff.2 ⟨hstatus, rfl⟩] at haccepted
          cases haccepted
        simp [hstatus, bind, Except.bind]
      | ok kept =>
        obtain ⟨hstatus, rfl⟩ := Reply.accepted_eq_ok_iff.1 haccepted
        simp [hstatus, bind, Except.bind]

variable {client : Client τ} {config : CatalogConfig} {request : SearchRequest} {state : τ}

/-- A search over HTTP whose reply carries items answers as any engine in memory does that has these
items queued. -/
theorem search_of_carries (h : ∀ filter ∈ request.filters, filter.Known) {reply : Reply}
    {items : List Item} (memory : InMemory)
    (hreply : client.searchReply? ((client.catalog config).searchCalls request) state = some reply)
    (hitems : reply.Carries ((client.catalog config).searchCalls request).length items)
    (hmemory : memory.replies.head? = some (.ok items)) :
    ((client.catalog config).search request state).1 =
      ((Session.catalog config).search request memory).1 := by
  have hround := multiSearch_eq_ok_iff.2 ⟨reply, hreply, hitems⟩
  have hnext : memory.nextAnswer ((Session.catalog config).searchCalls request) = .ok items := by
    rw [InMemory.nextAnswer, hmemory]
    rfl
  rw [Catalog.search_apply _ request h, Catalog.search_apply _ request h, Session.catalog_engine,
    InMemory.multiSearch_apply, catalog_multiSearch]
  simp only [hround, hnext]
  rfl

/-- A search over HTTP whose reply carries nothing has no results. -/
theorem search_of_not_carries (h : ∀ filter ∈ request.filters, filter.Known)
    (hnone : ∀ reply items,
      client.searchReply? ((client.catalog config).searchCalls request) state = some reply →
      ¬ reply.Carries ((client.catalog config).searchCalls request).length items) :
    ((client.catalog config).search request state).1 =
      .ok (.emptySuccess request.pageIndex
        ((client.catalog config).pageSize request.resultsPerPage) request.effectiveKinds) := by
  rw [Catalog.search_apply _ request h, catalog_multiSearch]
  cases hround : (client.multiSearch ((client.catalog config).searchCalls request) state).1 with
  | error error => simp only [hround, SearchRequest.respond_error]
  | ok items =>
    obtain ⟨reply, hreply, hitems⟩ := multiSearch_eq_ok_iff.1 hround
    exact absurd hitems (hnone reply items hreply)

end Client

/-- A search over HTTP is one request to the engine. If its reply carries items, as many as there
are searches, then the answer is the one of an engine in memory that has these items queued. If it
does not, be it for its status, for its length or for a single entry that cannot be read, or if
there is no reply, then the answer is the empty response for all kinds. It is never an internal
error. -/
theorem search_over_http {τ : Type} (client : Client τ) (config : CatalogConfig)
    (request : SearchRequest) (h : ∀ filter ∈ request.filters, filter.Known) (state : τ) :
    let catalog := client.catalog config
    let calls := catalog.searchCalls request
    let answer := (catalog.search request state).1
    (∀ url, client.endpoint ["_msearch"] = .ok url → (catalog.search request state).2 =
      (client.transport.send (client.searchRequest url calls) state).2) ∧
    (∀ reply items, client.searchReply? calls state = some reply →
      reply.Carries calls.length items →
      ∀ memory : InMemory, memory.replies.head? = some (.ok items) →
        answer = ((Session.catalog config).search request memory).1) ∧
    ((∀ reply items, client.searchReply? calls state = some reply →
        ¬ reply.Carries calls.length items) →
      answer = .ok (.emptySuccess request.pageIndex (catalog.pageSize request.resultsPerPage)
        request.effectiveKinds)) ∧
    ∀ error, answer ≠ .error (.internal error) := by
  intro catalog calls answer
  refine ⟨?exchange, ?carried, Client.search_of_not_carries h, ?internal⟩
  case exchange =>
    intro url hurl
    have hround := Client.multiSearch_of_endpoint hurl calls state
    rw [Catalog.search_apply catalog request h]
    exact congrArg Prod.snd hround
  case carried =>
    intro reply items hreply hitems memory hmemory
    exact Client.search_of_carries h memory hreply hitems hmemory
  case internal =>
    have hanswer := congrArg Prod.fst (Catalog.search_apply catalog request h state)
    intro error
    rw [show answer = _ from hanswer]
    exact SearchRequest.respond_ne_internal _ _ _ error

/-! ## A reply of two entries -/

namespace Script

/-- A record of two entries: a document, and a refusal that says nothing, beside hits. -/
def mixedText : String :=
  "\x7b\"responses\":[\x7b\"hits\":\x7b\"hits\":[\x7b\"_index\":\"t\",\"_id\":\"1\"\x7d]\x7d\x7d," ++
    "\x7b\"error\":null,\"hits\":\x7b\"hits\":[]\x7d\x7d]\x7d"

/-- The server with that record as its only reply, under a status. -/
def mixed (status : Nat) : Script := ⟨[⟨status, "", mixedText⟩], []⟩

/-- The items that the record stands for. -/
def mixedItems : List Item :=
  [.success ⟨none, [⟨"t", some "1", none, none⟩]⟩, .failure .null]

/-- The entries of the record. -/
theorem entriesOfText?_mixedText : Item.entriesOfText? mixedText = some
    [.object [("hits", .object [("hits",
      .array [.object [("_id", .text "1"), ("_index", .text "t")]])])],
     .object [("error", .null), ("hits", .object [("hits", .array [])])]] := by
  decide +kernel

/-- The record carries its items to two searches, under a status that reports no failure. -/
theorem mixed_carries {status : Nat} (h : status < 400 ∨ 600 ≤ status) {calls : List SearchCall}
    (hcalls : calls.length = 2) :
    Reply.Carries ⟨status, "", mixedText⟩ calls.length mixedItems := by
  refine Reply.carries_iff.2 ⟨h, outcomes_eq_ok_iff.2 ⟨?_, hcalls.symm⟩⟩
  rw [Item.listOfText?_eq_bind, entriesOfText?_mixedText]
  rfl

/-- The reply arrives as it was given, unless its status says that it has no body. -/
theorem searchReply?_mixed {status : Nat} (h : ¬ (status = 204 ∨ status = 304))
    (calls : List SearchCall) :
    client.searchReply? calls (mixed status) = some ⟨status, "", mixedText⟩ := by
  have hdelivered : client.searchReply? calls (mixed status) =
      some (Reply.delivered ⟨status, "", mixedText⟩ .post) := rfl
  rw [hdelivered, Reply.delivered, if_neg]
  rintro (hmethod | hbodiless)
  · cases hmethod
  · exact h hbodiless

end Script

/-- A reply of two entries answers a search for two kinds as it would in memory; a search for three
kinds gets nothing from it. -/
theorem search_over_http_mixed :
    let catalog := Script.client.catalog .standard
    let two : SearchRequest := ⟨"", 0, 0, [.user, .table], [.anyOf "tag" ["pii"]]⟩
    let three : SearchRequest := ⟨"", 0, 0, [.user, .table, .feature], [.anyOf "tag" ["pii"]]⟩
    (∀ filter ∈ two.filters, filter.Known) ∧
    (catalog.search two (Script.mixed 200)).1 = ((Session.catalog .standard).search two
      (InMemory.fresh.enqueue (.ok Script.mixedItems))).1 ∧
    (catalog.search three (Script.mixed 200)).1 =
      .ok (.emptySuccess 0 10 [.table, .feature, .user]) := by
  intro catalog two three
  have htwo : ∀ filter ∈ two.filters, filter.Known := by decide
  have hthree : ∀ filter ∈ three.filters, filter.Known := by decide
  have hcalls : (catalog.searchCalls two).length = 2 := by decide
  have hmore : (catalog.searchCalls three).length = 3 := by decide
  obtain ⟨-, hcarried, -⟩ :=
    search_over_http Script.client .standard two htwo (Script.mixed 200)
  obtain ⟨-, -, hnone, -⟩ :=
    search_over_http Script.client .standard three hthree (Script.mixed 200)
  refine ⟨htwo, ?_, hnone ?_⟩
  · exact hcarried _ _ (Script.searchReply?_mixed (by decide) _)
      (Script.mixed_carries (by decide) hcalls) _ rfl
  · intro reply items hreply hitems
    rw [Script.searchReply?_mixed (by decide)] at hreply
    cases hreply
    obtain ⟨entries, hentries, hcount, -⟩ := hitems.entries
    rw [Script.entriesOfText?_mixedText] at hentries
    cases hentries
    rw [hmore] at hcount
    cases hcount

/-- A status of 600 is not below 400, and still no failure: the reply answers the search. -/
theorem search_over_http_status_beyond :
    let catalog := Script.client.catalog .standard
    let request : SearchRequest := ⟨"", 0, 0, [.user, .table], [.anyOf "tag" ["pii"]]⟩
    (∀ filter ∈ request.filters, filter.Known) ∧
    Script.client.searchReply? (catalog.searchCalls request) (Script.mixed 600) =
      some ⟨600, "", Script.mixedText⟩ ∧
    (catalog.search request (Script.mixed 600)).1 = .error (.engine ⟨.user, .null⟩) ∧
    (catalog.search request (Script.mixed 600)).1 ≠ .ok (.emptySuccess 0 10 [.table, .user]) := by
  intro catalog request
  have h : ∀ filter ∈ request.filters, filter.Known := by decide
  have hcalls : (catalog.searchCalls request).length = 2 := by decide
  have hreply : Script.client.searchReply? (catalog.searchCalls request) (Script.mixed 600) =
      some ⟨600, "", Script.mixedText⟩ := Script.searchReply?_mixed (by decide) _
  have hanswer : (catalog.search request (Script.mixed 600)).1 =
      .error (.engine ⟨.user, .null⟩) := by
    rw [Client.search_of_carries h (InMemory.fresh.enqueue (.ok Script.mixedItems)) hreply
      (Script.mixed_carries (by decide) hcalls) rfl]
    rfl
  refine ⟨h, hreply, hanswer, ?_⟩
  rw [hanswer]
  exact fun heq => nomatch heq

end Http

end CatalogSearch
