import CatalogSearch.Proofs.Service.Mutation

/-!
# Keys that several documents share

A lookup has to notice that several documents share its key, and asks for one of them only, so the
total of the reply has to tell. `Catalog.lookup_tells_shared` says what a lookup comes to for any
number of documents with the key: with the total told it is right about all of them, and then no
change writes to one of several.

A reply may also leave the total out, and then several documents look like one.
`Catalog.lookup_takes_shared` shows an engine that does, where a change writes to the first of two
documents with one key.
-/

namespace CatalogSearch

namespace Reply

/-- A reply shows what a search asks for of some matching documents: a slice of them, and how many
there are, unless it leaves that out. -/
structure Shows (reply : Reply) (call : SearchCall) (matching : List Hit) : Prop where
  hits_eq : reply.hits = (matching.drop call.offset.toNat).take call.size.toNat
  total_eq : ∀ total, reply.total = some total → total.toNat = matching.length

variable {reply : Reply} {kind : ResourceKind} {key : String}

/-- A reply that counts a document is never taken for one that counts none, or several. -/
theorem single_ne_error :
    reply.single kind key ≠ .error (.notFound kind key) ∧
      ∀ count, reply.single kind key ≠ .error (.notUnique kind key count) := by
  unfold single
  split
  · exact ⟨fun h => (nomatch h), fun _ h => (nomatch h)⟩
  · split
    · exact ⟨fun h => (nomatch h), fun _ h => (nomatch h)⟩
    · exact ⟨fun h => (nomatch h), fun _ h => (nomatch h)⟩

/-- A lookup goes by the number of documents that are counted. -/
theorem unique_cases (reply : Reply) (kind : ResourceKind) (key : String) :
    (reply.totalHits.toNat = 0 ∧ reply.unique kind key = .error (.notFound kind key)) ∨
    (reply.totalHits.toNat = 1 ∧ reply.unique kind key = reply.single kind key) ∨
    (2 ≤ reply.totalHits.toNat ∧
      reply.unique kind key = .error (.notUnique kind key reply.totalHits)) := by
  by_cases hnone : reply.totalHits = 0
  · exact .inl ⟨by rw [hnone]; rfl, if_pos hnone⟩
  · by_cases hone : reply.totalHits = 1
    · exact .inr (.inl ⟨by rw [hone]; rfl, by rw [unique, if_neg hnone, if_pos hone]⟩)
    · have hnone' : reply.totalHits.toNat ≠ 0 := fun h => hnone (UInt64.toNat_inj.1 h)
      have hone' : reply.totalHits.toNat ≠ 1 := fun h => hone (UInt64.toNat_inj.1 h)
      exact .inr (.inr ⟨by omega, by rw [unique, if_neg hnone, if_neg hone]⟩)

/-- No document is found when none is counted. -/
theorem unique_eq_notFound_iff :
    reply.unique kind key = .error (.notFound kind key) ↔ reply.totalHits.toNat = 0 := by
  rcases reply.unique_cases kind key with ⟨hcount, h⟩ | ⟨hcount, h⟩ | ⟨hcount, h⟩
  · exact iff_of_true h hcount
  · rw [h]
    exact iff_of_false single_ne_error.1 (by omega)
  · rw [h]
    exact iff_of_false (fun h => nomatch h) (by omega)

/-- A key is not unique when several documents are counted. -/
theorem unique_eq_notUnique_iff {count : UInt64} :
    reply.unique kind key = .error (.notUnique kind key count) ↔
      2 ≤ reply.totalHits.toNat ∧ count = reply.totalHits := by
  rcases reply.unique_cases kind key with ⟨hcount, h⟩ | ⟨hcount, h⟩ | ⟨hcount, h⟩
  · rw [h]
    exact iff_of_false (fun h => nomatch h) (by omega)
  · rw [h]
    exact iff_of_false (single_ne_error.2 count) (by omega)
  · rw [h]
    simp [hcount, eq_comm]

variable {σ : Type} {catalog : Catalog σ} {matching : List Hit}

/-- A lookup is shown the first of the matching documents, if there are any. -/
theorem Shows.hits_of_keyCall (h : reply.Shows (catalog.keyCall kind key) matching) :
    reply.hits = matching.take 1 := h.hits_eq

/-- What a lookup takes for the number of documents with its key: this number if it is told, and
else the number of documents that it is shown, one at most. -/
theorem Shows.totalHits_of_keyCall (h : reply.Shows (catalog.keyCall kind key) matching) :
    reply.totalHits.toNat =
      if reply.total = none then min 1 matching.length else matching.length := by
  unfold totalHits
  cases htotal : reply.total with
  | none =>
    show (UInt64.ofNat reply.hits.length).toNat = _
    rw [if_pos rfl, h.hits_of_keyCall, List.length_take]
    exact UInt64.toNat_ofNat_of_lt (by rw [UInt64.size]; omega)
  | some total =>
    rw [if_neg (Option.some_ne_none total)]
    exact h.total_eq total htotal

/-- No document is found exactly when none has the key. -/
theorem Shows.unique_eq_notFound_iff (h : reply.Shows (catalog.keyCall kind key) matching) :
    reply.unique kind key = .error (.notFound kind key) ↔ matching.length = 0 := by
  rw [Reply.unique_eq_notFound_iff, h.totalHits_of_keyCall]
  split
  · omega
  · exact Iff.rfl

/-- The key is found to be not unique exactly when several documents have it and their number is
told. -/
theorem Shows.unique_eq_notUnique_iff (h : reply.Shows (catalog.keyCall kind key) matching)
    {count : UInt64} :
    reply.unique kind key = .error (.notUnique kind key count) ↔
      2 ≤ matching.length ∧ reply.total = some count := by
  rw [Reply.unique_eq_notUnique_iff, h.totalHits_of_keyCall]
  cases htotal : reply.total with
  | none =>
    -- the one document that is shown is too few
    rw [if_pos rfl]
    exact iff_of_false (fun h => by have := h.1; omega) (fun h => nomatch h.2)
  | some total =>
    have htotalHits : reply.totalHits = total := by rw [totalHits, htotal]; rfl
    rw [if_neg (Option.some_ne_none total), htotalHits, Option.some.injEq]
    exact and_congr_right fun _ => eq_comm

/-- A document is found exactly when it is the only one with the key, or the first of several whose
number is not told. -/
theorem Shows.unique_eq_ok_iff (h : reply.Shows (catalog.keyCall kind key) matching)
    {document : Document} :
    reply.unique kind key = .ok document ↔
      (matching.length = 1 ∨ 2 ≤ matching.length ∧ reply.total = none) ∧
        ∃ hit, matching.head? = some hit ∧ hit.id = some document.id ∧
          hit.sourceFields = document.fields := by
  have hhead : reply.hits.head? = matching.head? := by
    rw [h.hits_of_keyCall, List.head?_take, if_neg (by decide)]
  have hone : reply.totalHits = 1 ↔ reply.totalHits.toNat = 1 := UInt64.toNat_inj.symm
  rw [Reply.unique_eq_ok_iff, single_eq_ok_iff, hhead, hone, h.totalHits_of_keyCall]
  refine and_congr_left fun _ => ?_
  cases reply.total with
  | none =>
    rw [if_pos rfl, and_iff_left rfl]
    omega
  | some total =>
    rw [if_neg (Option.some_ne_none total)]
    exact (or_iff_left fun h => nomatch h.2).symm

end Reply

/-- Whether a search by key finds a document. -/
def Hit.answers (call : SearchCall) (hit : Hit) : Bool :=
  hit.index = call.index &&
    match hit.stored? FieldTable.keyField with
    | some (.text key) => call.query = (Query.ofKey key).toJson
    | _ => false

/-- The reply that shows what a search by key asks for of some documents, with or without the
number of those that it finds. -/
def SearchCall.replyFrom (documents : List Hit) (told : Bool) (call : SearchCall) : Reply :=
  let matching := documents.filter (Hit.answers call)
  ⟨if told then some (.ofNat matching.length) else none,
    (matching.drop call.offset.toNat).take call.size.toNat⟩

/-- Such a reply shows what the search asks for, with a number that is right. -/
theorem SearchCall.shows_replyFrom {documents : List Hit} (h : documents.length < UInt64.size)
    (told : Bool) (call : SearchCall) :
    (call.replyFrom documents told).Shows call (documents.filter (Hit.answers call)) where
  hits_eq := rfl
  total_eq total htotal := by
    have hfewer := List.length_filter_le (Hit.answers call) documents
    cases told with
    | false => cases htotal
    | true =>
      cases htotal
      exact UInt64.toNat_ofNat_of_lt (by omega)

/-- The engine with some documents that updates leave as they are, with the updates so far for its
state. -/
def Engine.ofDocuments (documents : List Hit) (told : Bool) : Engine (List RecordedUpdate) where
  ping := fun updates => (.ok true, updates)
  clusterHealth := fun updates => (.ok (.object [("status", .text "green")]), updates)
  multiSearch := fun calls updates =>
    (.ok (calls.map fun call => .success (call.replyFrom documents told)), updates)
  updateDocument := fun index id body updates => (.ok (), updates ++ [⟨index, id, body⟩])

namespace Catalog

variable {σ : Type} {catalog : Catalog σ} {kind : ResourceKind} {key : String} {state : σ}
  {reply : Reply}

/-- A lookup that is answered by one reply comes to what the reply does. -/
theorem lookup_of_reply
    (h : (catalog.engine.multiSearch [catalog.keyCall kind key] state).1 = .ok [.success reply]) :
    (catalog.lookup kind key state).1 = reply.unique kind key := by
  rw [lookup_apply]
  simp only [h]
  rfl

/-- A lookup among documents that all have identifiers, with the reply showing those that have the
key. No document is found exactly when there is none. The key is told to be not unique exactly when
there are several and the reply has their number. A document is found otherwise, namely the first.

So with the number told, a change with a key that several documents share ends with the lookup. -/
theorem lookup_tells_shared {matching : List Hit}
    (hanswer : (catalog.engine.multiSearch [catalog.keyCall kind key] state).1 =
      .ok [.success reply])
    (hshows : reply.Shows (catalog.keyCall kind key) matching)
    (hids : ∀ hit ∈ matching, hit.id ≠ none) :
    let found := (catalog.lookup kind key state).1
    (found = .error (.notFound kind key) ↔ matching.length = 0) ∧
    (∀ count, found = .error (.notUnique kind key count) ↔
      2 ≤ matching.length ∧ reply.total = some count) ∧
    ((∃ document, found = .ok document) ↔
      matching.length = 1 ∨ 2 ≤ matching.length ∧ reply.total = none) ∧
    (∀ document, found = .ok document → ∃ hit, matching.head? = some hit ∧
      hit.id = some document.id ∧ hit.sourceFields = document.fields) ∧
    ∀ mutation : Mutation, mutation.kind = kind → mutation.key = key → 2 ≤ matching.length →
      ∀ count, reply.total = some count →
        catalog.mutate mutation state =
          (.error (mutation.failure (.fetch (.lookup (.notUnique kind key count)))),
            (catalog.lookup kind key state).2) := by
  intro found
  have hfound : found = reply.unique kind key := lookup_of_reply hanswer
  rw [hfound]
  refine ⟨hshows.unique_eq_notFound_iff, fun _ => hshows.unique_eq_notUnique_iff, ⟨?_, ?_⟩,
    fun _ hok => (hshows.unique_eq_ok_iff.1 hok).2, ?_⟩
  · rintro ⟨document, hok⟩
    exact (hshows.unique_eq_ok_iff.1 hok).1
  · intro hcount
    obtain ⟨hit, rest, rfl⟩ : ∃ hit rest, matching = hit :: rest :=
      List.exists_cons_of_length_pos (by omega)
    obtain ⟨id, hid⟩ := Option.ne_none_iff_exists'.1 (hids hit List.mem_cons_self)
    exact ⟨⟨id, hit.sourceFields⟩, hshows.unique_eq_ok_iff.2 ⟨hcount, hit, rfl, hid, rfl⟩⟩
  · rintro mutation rfl rfl hcount count htotal
    exact mutate_of_lookup_error (hfound.trans (hshows.unique_eq_notUnique_iff.2 ⟨hcount, htotal⟩))

/-- An update of a document that shares its key with another fails, and writes nothing. -/
theorem lookup_tells_shared_two :
    let hit := fun id : String => Hit.mk "table_search_index" (some id) none (some (.object
      [("key", .text "orders"), ("tags", .array [.text "pii"])]))
    let catalog : Catalog (List RecordedUpdate) :=
      ⟨.ofDocuments [hit "t1", hit "t2"] true, .standard⟩
    let call := catalog.keyCall .table "orders"
    let reply := call.replyFrom [hit "t1", hit "t2"] true
    (catalog.engine.multiSearch [call] []).1 = .ok [.success reply] ∧
      reply.Shows call [hit "t1", hit "t2"] ∧
      (∀ document ∈ [hit "t1", hit "t2"], document.id ≠ none) ∧
      (catalog.lookup .table "orders" []).1 = .error (.notUnique .table "orders" 2) ∧
      catalog.update ⟨.table, "orders", "tag", "gold", .add⟩ [] =
        (.error ⟨"tag", "orders", .fetch (.lookup (.notUnique .table "orders" 2))⟩, []) := by
  intro hit catalog call reply
  have hanswer : (catalog.engine.multiSearch [call] []).1 = .ok [.success reply] := rfl
  have hshows : reply.Shows call [hit "t1", hit "t2"] :=
    SearchCall.shows_replyFrom (by decide) true call
  have hids : ∀ document ∈ [hit "t1", hit "t2"], document.id ≠ none := by simp [hit]
  obtain ⟨-, hshared, -, -, hmutate⟩ := lookup_tells_shared hanswer hshows hids
  have htwo : 2 ≤ [hit "t1", hit "t2"].length := Nat.le_refl 2
  refine ⟨hanswer, hshows, hids, (hshared 2).2 ⟨htwo, rfl⟩, ?_⟩
  exact hmutate (.update ⟨.table, "orders", "tag", "gold", .add⟩) rfl rfl htwo 2 rfl

/-- With the number of documents left out, the first of two with one key is found, and an update
writes to it. -/
theorem lookup_takes_shared :
    let hit := fun id : String => Hit.mk "table_search_index" (some id) none (some (.object
      [("key", .text "orders"), ("tags", .array [.text "pii"])]))
    let catalog : Catalog (List RecordedUpdate) :=
      ⟨.ofDocuments [hit "t1", hit "t2"] false, .standard⟩
    let call := catalog.keyCall .table "orders"
    let reply := call.replyFrom [hit "t1", hit "t2"] false
    (catalog.engine.multiSearch [call] []).1 = .ok [.success reply] ∧
      reply.Shows call [hit "t1", hit "t2"] ∧
      (∃ document, (catalog.lookup .table "orders" []).1 = .ok document ∧ document.id = "t1") ∧
      catalog.update ⟨.table, "orders", "tag", "gold", .add⟩ [] =
        (.ok "Document field tag for orders with value gold was updated successfully",
          [⟨"table_search_index", "t1",
            .object [("doc", .object [("tags", .array [.text "pii", .text "gold"])])]⟩]) := by
  refine ⟨rfl, ?_, ⟨_, rfl, rfl⟩, rfl⟩
  exact SearchCall.shows_replyFrom (by decide) false _

end Catalog

end CatalogSearch
