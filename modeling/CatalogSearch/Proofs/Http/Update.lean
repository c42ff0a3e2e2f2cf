import CatalogSearch.Proofs.Http.Search
import CatalogSearch.Proofs.Url.Segment

/-!
# Where an update over HTTP goes

An update of a document is one request, to a path that is meant to name the document: the index and
the identifier are segments of it, behind those of the engine's URL.

`update_reaches_segment` says for which identifiers the path does name it: for all but the dot
segments and those with tabs or line breaks, below any URL whose path is not two empty segments. Two
such documents of an index are never updated at one URL. `update_reaches_tab` shows two documents
that are, since a tab in the identifier of one leaves no trace.
-/

namespace CatalogSearch

namespace Http.Client

variable {τ : Type}

/-- The request that updates a document in part. -/
def updateRequest (client : Client τ) (url : Url) (body : Json) : Request :=
  client.request .post url ["application/json"] body.compact

/-- An update over HTTP is one exchange. -/
theorem updateDocument_of_endpoint {client : Client τ} {index id : String} {url : Url}
    (h : client.endpoint [index, "_update", id] = .ok url) (body : Json) (state : τ) :
    client.updateDocument index id body state =
      let answer := client.exchange (client.updateRequest url body) state
      (answer.1.map fun _ => (), answer.2) := by
  rw [updateDocument, h]
  dsimp only
  rw [Catalog.bind_apply, ← updateRequest]
  generalize client.exchange (client.updateRequest url body) state = answer
  obtain ⟨reply, after⟩ := answer
  cases reply <;> rfl

/-- A request is sent to the path that it is made for. -/
theorem updateRequest_withPath (client : Client τ) (url : Url) (path : UrlPath) (body : Json) :
    (client.updateRequest (url.withPath path) body).url =
      (client.updateRequest url body).url.withPath path := by
  have hcredentials : urlCredentials? (url.withPath path) = urlCredentials? url := rfl
  simp only [updateRequest, request, hcredentials]
  split <;> rfl

end Http.Client

/-- The name of a kind has more than two characters, and all of them are visible. -/
theorem ResourceKind.visible_name (kind : ResourceKind) :
    Url.visible kind.name = kind.name ∧ 2 < kind.name.length := by
  cases kind <;> decide

/-- The index of a kind has more than two characters too. -/
theorem Catalog.length_index {σ : Type} (catalog : Catalog σ) (kind : ResourceKind) :
    2 < (catalog.index kind).length := by
  have hname := kind.visible_name.2
  rw [Catalog.index, String.length_append]
  omega

/-- The index of a kind can be a segment of a path, unless its name goes on with tabs or line
breaks. -/
theorem Catalog.index_isSegment {σ : Type} {catalog : Catalog σ} (kind : ResourceKind)
    (h : ∀ c ∈ catalog.config.indexSuffix.toList, Url.isIgnored c = false) :
    Url.IsSegment (catalog.index kind) := by
  have hlong := catalog.length_index kind
  refine ⟨?_, ?_, Url.visible_eq_self_iff.2 ?_⟩
  · intro heq
    rw [heq] at hlong
    exact absurd hlong (by decide)
  · intro heq
    rw [heq] at hlong
    exact absurd hlong (by decide)
  · intro c hc
    rw [Catalog.index, String.toList_append, List.mem_append] at hc
    rcases hc with hc | hc
    · exact Url.visible_eq_self_iff.1 kind.visible_name.1 c hc
    · exact h c hc

namespace Http

/-- An update of a document over HTTP is one exchange, below the URL of the engine. Its path stands
for the segments of that URL, the index and the identifier exactly when the identifier can be a
segment, and the path of the URL is not two empty ones, of which both are lost. Two updates go to
one URL when their identifiers come to the same at the end of the path; if both identifiers can be
segments, then only when they are the same. -/
theorem update_reaches_segment {τ : Type} (client : Client τ) (config : CatalogConfig)
    {written : String} (hurl : Url.parse? written = some client.config.url)
    (hscheme : client.config.url.scheme = "http" ∨ client.config.url.scheme = "https")
    (hsuffix : ∀ c ∈ config.indexSuffix.toList, Url.isIgnored c = false) (kind : ResourceKind) :
    let catalog := client.catalog config
    let index := catalog.index kind
    ∃ base, client.config.url.path = .segments base ∧ ∃ sent : String → Url,
      (∀ id, ∃ url, client.endpoint [index, "_update", id] = .ok url ∧ ∀ body state,
        let request := client.updateRequest url body
        request.method = .post ∧ request.url = sent id ∧ request.body = body.compact ∧
        catalog.engine.updateDocument index id body state =
          let answer := client.exchange request state
          (answer.1.map fun _ => (), answer.2)) ∧
      (∀ id, (sent id).pathTexts = (Url.withoutEmptyLast base).map Url.segmentText? ++
          [some index, some "_update", some id] ↔ base ≠ ["", ""] ∧ Url.IsSegment id) ∧
      (∀ id other, sent id = sent other ↔
        Url.landing "_update" id = Url.landing "_update" other) ∧
      ∀ id other, Url.IsSegment id → Url.IsSegment other →
        (sent id).text = (sent other).text → id = other := by
  intro catalog index
  obtain ⟨base, hpath⟩ := Url.exists_segments_of_parse? hurl hscheme
  have hindex : Url.IsSegment index := Catalog.index_isSegment kind hsuffix
  have haction : Url.IsSegment "_update" := ⟨by decide, by decide, by decide⟩
  let special := client.config.url.isSpecial
  let site := (client.updateRequest client.config.url .null).url
  let path := fun id => UrlPath.segments (Url.rooted (Url.dropEmptyLast base) ++
    (index :: Url.landing "_update" id).map (Url.encodeSegment special))
  have hvisible : ∀ id, ∀ text ∈ index :: Url.landing "_update" id, Url.visible text = text := by
    intro id text htext
    rcases List.mem_cons.1 htext with rfl | hend
    · exact hindex.visible_eq
    · exact Url.visible_of_mem_landing haction.visible_eq hend
  have hendpoint : ∀ id, client.endpoint [index, "_update", id] =
      .ok (client.config.url.withPath (path id)) := by
    intro id
    have hlong : 2 < index.length := catalog.length_index kind
    have hempty : index ≠ "" := by
      intro heq
      rw [heq] at hlong
      exact absurd hlong (by decide)
    have hdrive : Url.startsWithDrive (Url.encodeSegment special "_update") = false := by
      cases special <;> decide
    rw [Client.endpoint, Url.extend?_eq_some hpath hindex haction hdrive hempty]
  have htexts : ∀ id, (site.withPath (path id)).pathTexts =
      (Url.rooted (Url.dropEmptyLast base)).map Url.segmentText? ++
        (index :: Url.landing "_update" id).map some := by
    intro id
    show List.map _ (_ ++ _) = _
    rw [List.map_append, Url.map_segmentText?_encodeSegment (hvisible id)]
  refine ⟨base, hpath, fun id => site.withPath (path id), ?posted, ?named, ?same, ?distinct⟩
  case posted =>
    intro id
    refine ⟨_, hendpoint id, fun body state => ?_⟩
    refine ⟨rfl, ?_, rfl, Client.updateDocument_of_endpoint (hendpoint id) body state⟩
    rw [Client.updateRequest_withPath]
    rfl
  case named =>
    intro id
    rw [htexts]
    exact Url.landing_behind_base_iff
  case same =>
    intro id other
    constructor
    · intro h
      have hsame := congrArg Url.pathTexts h
      rw [htexts, htexts, List.append_cancel_left_eq,
        List.map_inj_right (fun _ _ => Option.some.inj)] at hsame
      exact (List.cons.inj hsame).2
    · intro h
      simp only [path, h]
  case distinct =>
    intro id other hid hother hsame
    have hsame : (site.withPath (path id)).text = (site.withPath (path other)).text := hsame
    have hlast : ∀ text, Url.IsSegment text → path text =
        .segments ((Url.rooted (Url.dropEmptyLast base) ++ [index, "_update"].map
          (Url.encodeSegment special)) ++ [Url.encodeSegment special text]) := by
      intro text htext
      simp only [path, Url.landing_eq_iff.2 htext, List.map_cons, List.map_nil, List.append_assoc]
      rfl
    rw [hlast id hid, hlast other hother] at hsame
    have hencoded := Url.text_withPath_inj (by simp) hsame
    rw [Url.encodeSegment_inj, hid.visible_eq, hother.visible_eq] at hencoded
    exact hencoded

/-- The update of a document whose identifier has a slash goes to one segment behind the index. -/
theorem update_reaches_segment_slash :
    let client := Script.client
    Url.parse? "http://engine:9200" = some client.config.url ∧
    (client.config.url.scheme = "http" ∨ client.config.url.scheme = "https") ∧
    (∀ c ∈ CatalogConfig.standard.indexSuffix.toList, Url.isIgnored c = false) ∧
    ∃ sent : String → Url, (∀ body state, ∃ request : Request, request.url = sent "a/b" ∧
      (client.engine.updateDocument "table_search_index" "a/b" body state).2 =
        (client.exchange request state).2) ∧
      (sent "a/b").pathTexts = [some "table_search_index", some "_update", some "a/b"] := by
  intro client
  have hurl : Url.parse? "http://engine:9200" = some client.config.url := by decide +kernel
  have hscheme : client.config.url.scheme = "http" ∨ client.config.url.scheme = "https" :=
    .inl rfl
  have hsuffix : ∀ c ∈ CatalogConfig.standard.indexSuffix.toList, Url.isIgnored c = false :=
    Url.visible_eq_self_iff.1 (by decide)
  obtain ⟨base, hpath, sent, hposted, hnamed, -, -⟩ :=
    update_reaches_segment client .standard hurl hscheme hsuffix .table
  cases hpath
  obtain ⟨url, -, hposted⟩ := hposted "a/b"
  refine ⟨hurl, hscheme, hsuffix, sent, fun body state => ?_,
    (hnamed "a/b").2 ⟨by decide, by decide, by decide, by decide⟩⟩
  obtain ⟨-, hrequest, -, hanswer⟩ := hposted body state
  exact ⟨client.updateRequest url body, hrequest, congrArg Prod.snd hanswer⟩

/-- Two documents whose identifiers differ by a tab are updated at one URL, and the path of neither
has the tab. -/
theorem update_reaches_tab :
    let reply : Reply := ⟨200, "", "\x7b\x7d"⟩
    let sent := fun id =>
      ((Script.client.engine.updateDocument "table_search_index" id .null
        ⟨[reply], []⟩).2.requests.map fun request => (request.url.text, request.url.pathTexts))
    sent "t\t1" = [("http://engine:9200/table_search_index/_update/t1",
      [some "table_search_index", some "_update", some "t1"])] ∧ sent "t1" = sent "t\t1" := by
  decide +kernel

end Http

end CatalogSearch
