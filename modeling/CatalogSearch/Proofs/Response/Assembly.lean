import CatalogSearch.Response.Assembly

/-!
# What a response holds

The response that is assembled from the outcomes of some searches, described without the order in
which they are put into it. `Hit.Declares` and `Reply.OfKind` say which kind a reply belongs to,
and `LastReply` which of several replies of one kind counts.

The main theorem, `assemble_outcome`, says that a response fails on the first refusal and on
nothing else, and that otherwise it holds one entry for every requested kind and every kind of a
reply: the results of the last reply of that kind, or none. The invariant behind it is
`find?_addOutcomes`: what a response holds for a kind after some outcomes is the last reply of that
kind among them, or what it held before.
-/

namespace CatalogSearch

/-- The kind with a name is the only one that has it. -/
theorem ResourceKind.ofName?_eq_some_iff {text : String} {kind : ResourceKind} :
    ofName? text = some kind ↔ kind.name = text := by
  constructor
  · intro h
    simpa using List.find?_some h
  · intro h
    rw [← h, ofName?_name]

namespace Hit

/-- A document declares a kind when it stores the name of the kind, in whatever case, in the field
for it. -/
def Declares (hit : Hit) (kind : ResourceKind) : Prop :=
  ∃ text, hit.stored? "resource_type" = some (.text text) ∧
    text.toList.map Char.toLower = kind.name.toList

/-- The kind that is read from a document is the one that it declares. -/
theorem declaredKind?_eq_some_iff {hit : Hit} {kind : ResourceKind} :
    hit.declaredKind? = some kind ↔ hit.Declares kind := by
  have hparse : ∀ text, ResourceKind.parse? text = some kind ↔
      text.toList.map Char.toLower = kind.name.toList := by
    intro text
    rw [ResourceKind.parse?, ResourceKind.ofName?_eq_some_iff, ← String.toList_inj,
      String.toList_ofList, eq_comm]
  unfold declaredKind? Declares
  rw [show FieldTable.kindField = "resource_type" from rfl]
  cases hit.stored? "resource_type" with
  | none => simp
  | some value => cases value <;> simp [Json.text?, hparse]

end Hit

namespace Reply

/-- A reply to a search for a kind belongs to the kind that its first document declares, or to the
one that was searched for when that declares none. -/
def OfKind (reply : Reply) (searched kind : ResourceKind) : Prop :=
  ∃ hit rest, reply.hits = hit :: rest ∧
    (hit.Declares kind ∨ (kind = searched ∧ ∀ other, ¬ hit.Declares other))

/-- The kind that is read from a reply is the one that it belongs to. -/
theorem kind?_eq_some_iff {reply : Reply} {searched kind : ResourceKind} :
    reply.kind? searched = some kind ↔ reply.OfKind searched kind := by
  obtain ⟨total, hits⟩ := reply
  cases hits with
  | nil => simp [kind?, OfKind]
  | cons hit rest =>
    have hiff : OfKind ⟨total, hit :: rest⟩ searched kind ↔
        hit.declaredKind? = some kind ∨
          (kind = searched ∧ ∀ other, ¬ hit.declaredKind? = some other) := by
      simp only [OfKind, Hit.declaredKind?_eq_some_iff, List.cons.injEq]
      exact ⟨fun ⟨_, _, ⟨rfl, rfl⟩, h⟩ => h, fun h => ⟨hit, rest, ⟨rfl, rfl⟩, h⟩⟩
    rw [hiff]
    cases hdeclared : hit.declaredKind? <;> simp [kind?, hdeclared, eq_comm]

end Reply

/-- None of some outcomes is a reply of a kind. -/
def NoReply (kind : ResourceKind) (outcomes : List (ResourceKind × Item)) : Prop :=
  ∀ searched reply, (searched, Item.success reply) ∈ outcomes → ¬ reply.OfKind searched kind

/-- Where no reply is of a kind, none of the later ones is. -/
theorem NoReply.tail {kind : ResourceKind} {outcome : ResourceKind × Item}
    {rest : List (ResourceKind × Item)} (h : NoReply kind (outcome :: rest)) : NoReply kind rest :=
  fun searched reply hmem => h searched reply (List.mem_cons_of_mem _ hmem)

/-- A reply is the last one of a kind among some outcomes. -/
inductive LastReply (kind : ResourceKind) (reply : Reply) : List (ResourceKind × Item) → Prop where
  | here {searched : ResourceKind} {rest : List (ResourceKind × Item)} :
      reply.OfKind searched kind → NoReply kind rest →
      LastReply kind reply ((searched, .success reply) :: rest)
  | later {outcome : ResourceKind × Item} {rest : List (ResourceKind × Item)} :
      LastReply kind reply rest → LastReply kind reply (outcome :: rest)

/-- Some outcomes hold a reply of a kind exactly when there is a last one. -/
theorem exists_lastReply_iff {kind : ResourceKind} {outcomes : List (ResourceKind × Item)} :
    (∃ reply, LastReply kind reply outcomes) ↔ ¬ NoReply kind outcomes := by
  induction outcomes with
  | nil =>
    refine iff_of_false ?_ (not_not_intro fun _ _ h => nomatch h)
    rintro ⟨reply, h⟩
    cases h
  | cons outcome rest ih =>
    constructor
    · rintro ⟨reply, h⟩ hno
      cases h with
      | here hkind _ => exact hno _ _ List.mem_cons_self hkind
      | later h =>
        exact ih.1 ⟨reply, h⟩ hno.tail
    · intro h
      by_cases hrest : NoReply kind rest
      · -- the first outcome is the only reply of the kind
        obtain ⟨searched, item⟩ := outcome
        have hhead : ∃ reply, item = .success reply ∧ reply.OfKind searched kind := by
          false_or_by_contra
          rename_i hnone
          refine h fun other reply hmem hkind => ?_
          rcases List.mem_cons.1 hmem with heq | hmem
          · cases heq
            exact hnone ⟨reply, rfl, hkind⟩
          · exact hrest other reply hmem hkind
        obtain ⟨reply, rfl, hkind⟩ := hhead
        exact ⟨reply, .here hkind hrest⟩
      · -- a later outcome is one, so the last of those is
        obtain ⟨reply, hreply⟩ := ih.2 hrest
        exact ⟨reply, .later hreply⟩

namespace SearchResponse

/-- A reply replaces the results of its kind and no others. -/
theorem find?_addReply (response : SearchResponse) (searched : ResourceKind) (reply : Reply)
    (kind : ResourceKind) :
    (response.addReply searched reply).results.find? kind =
      if reply.kind? searched = some kind then some (reply.toResults kind)
      else response.results.find? kind := by
  unfold addReply
  split
  · rename_i own hown
    simp only [OrderedMap.find?_insert, Std.compare_eq_iff_eq, hown, Option.some.injEq]
    by_cases h : own = kind
    · simp [h]
    · rw [if_neg h, if_neg fun heq => h heq.symm]
  · rename_i hnone
    simp [hnone]

/-- What a response holds for a kind after some outcomes: the last reply of that kind among them,
and without one what it held before. -/
theorem find?_addOutcomes {response final : SearchResponse}
    {outcomes : List (ResourceKind × Item)} (h : response.addOutcomes outcomes = .ok final)
    (kind : ResourceKind) :
    (∀ reply, LastReply kind reply outcomes →
      final.results.find? kind = some (reply.toResults kind)) ∧
    (NoReply kind outcomes → final.results.find? kind = response.results.find? kind) := by
  -- the first outcome changes the response that the others are added to
  induction outcomes generalizing response with
  | nil =>
    cases h
    exact ⟨fun _ hlast => (nomatch hlast), fun _ => rfl⟩
  | cons outcome rest ih =>
    obtain ⟨searched, item⟩ := outcome
    cases item with
    | failure failures => cases h
    | success reply =>
      obtain ⟨hlast, hno⟩ := ih h
      refine ⟨fun other hother => ?_, fun hnone => ?_⟩
      · cases hother with
        | here hkind hrest =>
          -- the results of this reply are not replaced any more
          rw [hno hrest, find?_addReply, if_pos (Reply.kind?_eq_some_iff.2 hkind)]
        | later hother => exact hlast other hother
      · have hkind : ¬ reply.kind? searched = some kind :=
          fun heq => hnone searched reply List.mem_cons_self (Reply.kind?_eq_some_iff.1 heq)
        rw [hno hnone.tail, find?_addReply, if_neg hkind]

/-- Outcomes change nothing in a response but its results. -/
theorem addOutcomes_frame {response final : SearchResponse}
    {outcomes : List (ResourceKind × Item)} (h : response.addOutcomes outcomes = .ok final) :
    final = { response with results := final.results } := by
  induction outcomes generalizing response with
  | nil =>
    cases h
    rfl
  | cons outcome rest ih =>
    obtain ⟨searched, item⟩ := outcome
    cases item with
    | failure failures => cases h
    | success reply =>
      have hadd : response.addReply searched reply =
          { response with results := (response.addReply searched reply).results } := by
        unfold addReply
        split <;> rfl
      rw [ih h, hadd]

/-- Outcomes are refused for the first refusal among them. -/
theorem addOutcomes_eq_error_iff {response : SearchResponse}
    {outcomes : List (ResourceKind × Item)} {failure : EngineFailure} :
    response.addOutcomes outcomes = .error failure ↔
      ∃ before after, outcomes = before ++ (failure.kind, .failure failure.failures) :: after ∧
        ∀ outcome ∈ before, ∃ reply, outcome.2 = .success reply := by
  induction outcomes generalizing response with
  | nil => simp [addOutcomes]
  | cons outcome rest ih =>
    obtain ⟨searched, item⟩ := outcome
    cases item with
    | failure failures =>
      simp only [addOutcomes, Except.error.injEq]
      constructor
      · rintro rfl
        exact ⟨[], rest, rfl, by simp⟩
      · rintro ⟨before, after, houtcomes, hbefore⟩
        cases before with
        | nil =>
          cases houtcomes
          rfl
        | cons first others =>
          -- the refusal would have to be a reply
          cases houtcomes
          obtain ⟨reply, hreply⟩ := hbefore _ List.mem_cons_self
          cases hreply
    | success reply =>
      rw [addOutcomes, ih]
      constructor
      · rintro ⟨before, after, rfl, hbefore⟩
        refine ⟨(searched, .success reply) :: before, after, rfl, ?_⟩
        exact List.forall_mem_cons.2 ⟨⟨reply, rfl⟩, hbefore⟩
      · rintro ⟨before, after, houtcomes, hbefore⟩
        cases before with
        | nil => cases houtcomes
        | cons first others =>
          cases houtcomes
          exact ⟨others, after, rfl, (List.forall_mem_cons.1 hbefore).2⟩

/-- The empty response holds no results for every requested kind, and nothing for the others. -/
theorem find?_emptySuccess (pageIndex resultsPerPage : UInt64) (requested : List ResourceKind)
    (kind : ResourceKind) :
    (emptySuccess pageIndex resultsPerPage requested).results.find? kind =
      if kind ∈ requested then some .empty else none := by
  have hvalue : ∀ kinds : List ResourceKind,
      valueAt? kind (kinds.map fun kind => (kind, KindResults.empty)) =
        if kind ∈ kinds then some .empty else none := by
    intro kinds
    induction kinds with
    | nil => rfl
    | cons first rest ih =>
      simp only [List.map_cons, valueAt?, ih, Std.compare_eq_iff_eq, List.mem_cons]
      by_cases h : kind = first <;> simp [h]
  rw [emptySuccess, OrderedMap.find?_ofList, ← List.map_reverse, hvalue]
  simp

/-- What the response to a search holds, if no search was refused: its page, and for every
requested kind and every kind of a reply the results of the last reply of that kind, or none. -/
structure Assembled (pageIndex resultsPerPage : UInt64) (outcomes : List (ResourceKind × Item))
    (requested : List ResourceKind) (response : SearchResponse) : Prop where
  message_eq : response.message = "Success"
  statusCode_eq : response.statusCode = 200
  pageIndex_eq : response.pageIndex = pageIndex
  resultsPerPage_eq : response.resultsPerPage = resultsPerPage
  mem_keys : ∀ kind, kind ∈ response.results.keys ↔ kind ∈ requested ∨
    ∃ searched reply, (searched, .success reply) ∈ outcomes ∧ reply.OfKind searched kind
  of_last : ∀ kind reply, LastReply kind reply outcomes →
    response.results.find? kind = some
      { entries := reply.hits.map (Hit.toEntry (FieldTable.ofKind kind))
        total := reply.total.getD (UInt64.ofNat reply.hits.length) }
  of_none : ∀ kind, NoReply kind outcomes → kind ∈ requested →
    response.results.find? kind = some { entries := [], total := 0 }

/-- Outcomes that are all taken up make the response that is described. -/
theorem assembled_of_ok {pageIndex resultsPerPage : UInt64}
    {outcomes : List (ResourceKind × Item)} {requested : List ResourceKind}
    {response : SearchResponse}
    (h : assemble pageIndex resultsPerPage outcomes requested = .ok response) :
    Assembled pageIndex resultsPerPage outcomes requested response := by
  have hframe := addOutcomes_frame h
  have hlast : ∀ kind reply, LastReply kind reply outcomes →
      response.results.find? kind = some (reply.toResults kind) :=
    fun kind => (find?_addOutcomes h kind).1
  have hnone : ∀ kind, NoReply kind outcomes →
      response.results.find? kind = if kind ∈ requested then some .empty else none := by
    intro kind hno
    rw [(find?_addOutcomes h kind).2 hno, find?_emptySuccess]
  refine ⟨by rw [hframe]; rfl, by rw [hframe]; rfl, by rw [hframe]; rfl, by rw [hframe]; rfl,
    fun kind => ?_, hlast, fun kind hno hrequested => ?_⟩
  · rw [OrderedMap.mem_keys_iff]
    by_cases hno : NoReply kind outcomes
    · -- the kind can only be there from the beginning
      have hreply : ¬ ∃ searched reply, (searched, .success reply) ∈ outcomes ∧
          reply.OfKind searched kind := fun ⟨searched, reply, hmem, hkind⟩ =>
        hno searched reply hmem hkind
      rw [hnone kind hno, or_iff_left hreply]
      by_cases hrequested : kind ∈ requested <;> simp [hrequested]
    · -- some reply is of the kind, hence there is a last one, with results
      obtain ⟨reply, hreply⟩ := exists_lastReply_iff.2 hno
      rw [hlast kind reply hreply]
      refine iff_of_true rfl (Or.inr ?_)
      simpa [NoReply] using hno
  · rw [hnone kind hno, if_pos hrequested]
    rfl

end SearchResponse

end CatalogSearch
