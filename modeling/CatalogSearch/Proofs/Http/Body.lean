import CatalogSearch.Http.Client
import CatalogSearch.Proofs.Json.Printer
import CatalogSearch.Proofs.Service.Dispatch

/-!
# The body of several searches

Several searches travel in one body, which is cut into lines again at the other end. Compact texts
stay on their lines (`Json.unbroken_chars`), so cutting gives back what was put together:
`Http.searchBody_lines` says that it has two lines for each search and nothing else. Hence no string
in a search, wherever it stands, can make one search out of two, or two out of one.
-/

namespace CatalogSearch

/-- The texts that stand for a search: where to search, and what. -/
def SearchCall.texts (call : SearchCall) : List String := [call.header.compact, call.body.compact]

namespace Http

/-- A text cut at its line breaks. -/
def cutLines (text : String) : List String := (text.split '\n').toList.map String.Slice.copy

/-- Texts that stay on their lines are cut apart where they were put together, and nothing is left
behind the last of them. -/
theorem cutLines_join {lines : List String} (h : ∀ line ∈ lines, Unbroken line.toList) :
    cutLines (String.join (lines.map (· ++ "\n"))) = lines ++ [""] := by
  have hcut : (lines.flatMap fun line => line.toList ++ ['\n']).splitOn '\n' =
      lines.map String.toList ++ [[]] := by
    induction lines with
    | nil => exact List.splitOn_nil '\n'
    | cons line rest ih =>
      obtain ⟨hline, hrest⟩ := List.forall_mem_cons.1 h
      rw [List.flatMap_cons, List.append_assoc, List.singleton_append,
        List.splitOn_append_cons_self_of_not_mem hline.newline_not_mem, ih hrest]
      rfl
  have hchars : (String.join (lines.map (· ++ "\n"))).toList =
      lines.flatMap fun line => line.toList ++ ['\n'] := by
    simp [String.toList_join, List.flatMap_map]
  rw [cutLines, String.toList_split_char, hchars, hcut]
  simp

/-- The body is made of the texts of the searches, each on a line. -/
theorem searchBody_eq_join (calls : List SearchCall) :
    searchBody calls = String.join ((calls.flatMap SearchCall.texts).map (· ++ "\n")) := by
  refine String.toList_inj.1 ?_
  simp [searchBody, SearchCall.texts, String.toList_join, List.flatMap_map, List.flatMap_assoc]

/-- The texts of a search stay on their lines, and none of them is empty. -/
theorem unbroken_of_mem_texts {call : SearchCall} {line : String} (h : line ∈ call.texts) :
    Unbroken line.toList ∧ line ≠ "" := by
  have hcompact (value : Json) : Unbroken value.compact.toList ∧ value.compact ≠ "" := by
    rw [Json.compact, String.toList_ofList]
    refine ⟨value.unbroken_chars, fun hempty => value.chars_ne_nil ?_⟩
    simpa using congrArg String.toList hempty
  simp only [SearchCall.texts, List.mem_cons, List.not_mem_nil, or_false] at h
  obtain rfl | rfl := h <;> exact hcompact _

/-- The texts of searches are two for each, in order, whatever stands behind them. -/
theorem getElem?_texts {calls : List SearchCall} {i : Nat} {call : SearchCall}
    (h : calls[i]? = some call) (behind : List String) :
    (calls.flatMap SearchCall.texts ++ behind)[2 * i]? = some call.header.compact ∧
      (calls.flatMap SearchCall.texts ++ behind)[2 * i + 1]? = some call.body.compact := by
  induction calls generalizing i with
  | nil => cases h
  | cons first rest ih =>
    cases i with
    | zero =>
      cases h
      exact ⟨rfl, rfl⟩
    | succ i => exact ih h

/-- There are two texts for each search. -/
theorem length_texts (calls : List SearchCall) :
    (calls.flatMap SearchCall.texts).length = 2 * calls.length := by
  induction calls with
  | nil => rfl
  | cons call rest ih =>
    rw [List.flatMap_cons, List.length_append, ih, List.length_cons]
    show 2 + 2 * rest.length = _
    omega

/-- Texts that are the same one after the other are the same search by search. -/
theorem map_texts_of_flatMap_texts {calls others : List SearchCall}
    (h : calls.flatMap SearchCall.texts = others.flatMap SearchCall.texts) :
    calls.map SearchCall.texts = others.map SearchCall.texts := by
  induction calls generalizing others with
  | nil =>
    cases others with
    | nil => rfl
    | cons other rest => cases h
  | cons call rest ih =>
    cases others with
    | nil => cases h
    | cons other rest' =>
      rw [List.flatMap_cons, List.flatMap_cons] at h
      obtain ⟨hfirst, hrest⟩ := List.append_inj h rfl
      rw [List.map_cons, List.map_cons, hfirst, ih hrest]

/-- The body of several searches is cut into their texts. -/
theorem cutLines_searchBody (calls : List SearchCall) :
    cutLines (searchBody calls) = calls.flatMap SearchCall.texts ++ [""] := by
  rw [searchBody_eq_join]
  refine cutLines_join fun line hline => ?_
  obtain ⟨call, -, hline⟩ := List.mem_flatMap.1 hline
  exact (unbroken_of_mem_texts hline).1

-- a line break in the name of an index does not end the line
example : cutLines (searchBody [⟨"team\n", .null, 0, 1⟩]) =
    ["\x7b\"index\":\"team\\n\"\x7d", "\x7b\"from\":0,\"query\":null,\"size\":1\x7d", ""] := by cbv

/-- The body of several searches has two lines for each, and nothing behind them. -/
theorem length_cutLines_searchBody (calls : List SearchCall) :
    (cutLines (searchBody calls)).length = 2 * calls.length + 1 := by
  rw [cutLines_searchBody, List.length_append, length_texts]
  rfl

/-- Searches with the same body have the same texts, and the other way round. -/
theorem searchBody_eq_iff {calls others : List SearchCall} :
    searchBody calls = searchBody others ↔
      calls.map SearchCall.texts = others.map SearchCall.texts := by
  constructor
  · intro h
    have hlines := congrArg cutLines h
    rw [cutLines_searchBody, cutLines_searchBody] at hlines
    exact map_texts_of_flatMap_texts (List.append_cancel_right hlines)
  · intro h
    have htexts := congrArg List.flatten h
    rw [← List.flatMap_def, ← List.flatMap_def] at htexts
    rw [searchBody_eq_join, searchBody_eq_join, htexts]

/-- The body of several searches, cut into lines, is two lines for each search, none of them empty,
and nothing behind the last line break. In the place of each search stand its two texts, so two
lists of searches have the same body exactly when they have the same texts, search by search.

In particular the lines for a request to search are two for each of its kinds, whatever its term and
its filters are. -/
theorem searchBody_lines (calls : List SearchCall) :
    let lines := cutLines (searchBody calls)
    lines = calls.flatMap SearchCall.texts ++ [""] ∧
    lines.length = 2 * calls.length + 1 ∧
    (∀ line ∈ calls.flatMap SearchCall.texts, line ≠ "") ∧
    (∀ i call, calls[i]? = some call →
      lines[2 * i]? = some call.header.compact ∧ lines[2 * i + 1]? = some call.body.compact) ∧
    (∀ others, searchBody calls = searchBody others ↔
      calls.map SearchCall.texts = others.map SearchCall.texts) ∧
    ∀ {σ : Type} (catalog : Catalog σ) (request : SearchRequest),
      (∀ filter ∈ request.filters, filter.Known) →
        (cutLines (searchBody (catalog.searchCalls request))).length =
          2 * request.effectiveKinds.length + 1 := by
  intro lines
  have hlines : lines = calls.flatMap SearchCall.texts ++ [""] := cutLines_searchBody calls
  refine ⟨hlines, length_cutLines_searchBody calls, fun line hline => ?_, fun i call hcall => ?_,
    fun others => searchBody_eq_iff, fun catalog request hknown => ?_⟩
  · obtain ⟨call, -, hline⟩ := List.mem_flatMap.1 hline
    exact (unbroken_of_mem_texts hline).2
  · rw [hlines]
    exact getElem?_texts hcall [""]
  · obtain ⟨queries, hqueries⟩ := Query.exists_build request.term hknown
    rw [length_cutLines_searchBody, Catalog.searchCalls_eq_map hqueries, List.length_map]

end Http

end CatalogSearch
