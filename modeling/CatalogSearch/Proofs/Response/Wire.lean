import CatalogSearch.Engine.Wire
import CatalogSearch.Proofs.Json.Reading
import CatalogSearch.Proofs.Response.Assembly
import CatalogSearch.Proofs.Response.Entry

/-!
# Responses on the wire

A response that is written as JSON can always be read again. What arrives is the response without
what JSON cannot hold: the score of an entry shares an object with its fields, so a field that has
the name of the score gives way to it, and a double that is not finite becomes null, which reads as
an absent score or a null value (`SearchResponse.ofJson?_toJson`).

The main theorem, `SearchResponse.survives_wire`, says which responses arrive as they were, and that
every response that is made of an engine's replies does: no table of the catalog has the name of the
score among its names, and JSON has no double that is not finite.
-/

namespace CatalogSearch

namespace Entry

/-- What arrives of an entry: the fields under other names than that of the score, with doubles that
are not finite replaced by null, and the score if it is finite. -/
def received (entry : Entry) : Entry where
  fields := .ofList (Value.nulledEntries
    (entry.fields.entries.filter fun field => field.1 ≠ scoreName))
  score := entry.score.filter Double.isFinite

/-- What an entry must fulfil to arrive as it was: no field has the name of the score, and all
doubles are finite. -/
structure Writable (entry : Entry) : Prop where
  unshadowed : entry.get? scoreName = none
  score : ∀ score, entry.score = some score → score.isFinite = true
  values : ∀ field value, entry.get? field = some value → value.IsFinite

/-- Members are written one by one, so those under other names can be chosen before or after. -/
theorem filter_toJsonMembers (name : String) (fields : List (String × Value)) :
    (Value.toJsonMembers fields).filter (fun member => member.1 ≠ name) =
      Value.toJsonMembers (fields.filter fun field => field.1 ≠ name) := by
  induction fields with
  | nil => rfl
  | cons field rest ih =>
    obtain ⟨key, value⟩ := field
    rw [Value.toJsonMembers, List.filter_cons, List.filter_cons, ih]
    split <;> rfl

/-- An optional double is read as itself if it is finite, and as absent if not. -/
theorem nullable?_ofDouble (score : Option Double) :
    Json.nullable? Json.double? (.ofOption .ofDouble score) =
      some (score.filter Double.isFinite) := by
  cases score with
  | none => rfl
  | some score => cases score <;> rfl

/-- An entry is read from its JSON value as what arrives of it. -/
theorem ofJson?_toJson (entry : Entry) : ofJson? entry.toJson = some entry.received := by
  rw [toJson, ofJson?, valueAt?_insertAscending, if_pos Std.compare_self, filter_insertAscending,
    filter_toJsonMembers]
  simp only [nullable?_ofDouble, Value.readMembers?_eq_ofJsonMembers,
    Value.ofJsonMembers_toJsonMembers]
  rfl

/-- The fields that arrive, in order. -/
theorem entries_received (entry : Entry) : entry.received.fields.entries =
    Value.nulledEntries (entry.fields.entries.filter fun field => field.1 ≠ scoreName) := by
  refine OrderedMap.entries_ofList ?_
  rw [Value.nulledEntries_eq_map]
  exact List.pairwise_map.2 (entry.fields.ascending.filter _)

/-- What makes an entry writable, field by field. -/
theorem writable_iff {entry : Entry} : entry.Writable ↔
    (∀ field ∈ entry.fields.entries, field.1 ≠ scoreName ∧ field.2.IsFinite) ∧
      ∀ score, entry.score = some score → score.isFinite = true := by
  constructor
  · rintro ⟨hunshadowed, hscore, hvalues⟩
    refine ⟨fun ⟨name, value⟩ hfield => ?_, hscore⟩
    have hget : entry.get? name = some value := OrderedMap.find?_eq_some_iff.2 hfield
    refine ⟨?_, hvalues name value hget⟩
    rintro rfl
    rw [hunshadowed] at hget
    cases hget
  · rintro ⟨hfields, hscore⟩
    have hmem : ∀ {name value}, entry.get? name = some value →
        name ≠ scoreName ∧ value.IsFinite := fun hget =>
      hfields _ (OrderedMap.find?_eq_some_iff.1 hget)
    refine ⟨Option.eq_none_iff_forall_ne_some.2 fun value hget => (hmem hget).1 rfl, hscore,
      fun _ _ hget => (hmem hget).2⟩

/-- The fields that arrive as they were are those under other names than that of the score, with
finite values. -/
theorem fields_received_eq_self_iff {entry : Entry} : entry.received.fields = entry.fields ↔
    ∀ field ∈ entry.fields.entries, field.1 ≠ scoreName ∧ field.2.IsFinite := by
  rw [OrderedMap.ext_iff, entries_received]
  constructor
  · intro h
    -- no field is missing, because as many fields arrive as there were
    have hlength := congrArg List.length h
    rw [Value.nulledEntries_eq_map, List.length_map, List.length_filter_eq_length_iff] at hlength
    rw [List.filter_eq_self.2 hlength, Value.nulledEntries_eq_self_iff] at h
    exact fun field hfield => ⟨by simpa using hlength field hfield, h field hfield⟩
  · intro h
    have hkept : ∀ field ∈ entry.fields.entries, decide (field.1 ≠ scoreName) = true :=
      fun field hfield => by simpa using (h field hfield).1
    rw [List.filter_eq_self.2 hkept, Value.nulledEntries_eq_self_iff]
    exact fun field hfield => (h field hfield).2

/-- The entries that arrive as they were are the writable ones. -/
theorem received_eq_self_iff {entry : Entry} : entry.received = entry ↔ entry.Writable := by
  have hscore : entry.received.score = entry.score ↔
      ∀ score, entry.score = some score → score.isFinite = true := by
    cases hscore : entry.score with
    | none => simp [received, hscore]
    | some score => simp [received, hscore, Option.filter_some]
  rw [writable_iff, ← fields_received_eq_self_iff, ← hscore]
  constructor
  · intro h
    exact ⟨congrArg fields h, congrArg score h⟩
  · rintro ⟨hfields, hscore⟩
    cases entry
    rw [Entry.mk.injEq]
    exact ⟨hfields, hscore⟩

end Entry

namespace KindResults

/-- What arrives of the results for one kind. -/
def received (results : KindResults) : KindResults :=
  ⟨results.entries.map Entry.received, results.total⟩

/-- Results are read from their JSON value as what arrives of them. -/
theorem ofJson?_toJson (results : KindResults) :
    ofJson? results.toJson = some results.received := by
  have hentries : Json.list? Entry.ofJson? (.array (results.entries.map Entry.toJson)) =
      some (results.entries.map Entry.received) :=
    mapM_map_eq_some Entry.ofJson?_toJson results.entries
  have htotal : Json.uint64? (.ofUInt64 results.total) = some results.total :=
    Whole.toUInt64?_ofUInt64 results.total
  simp [ofJson?, toJson, Json.slots?, valueAt?, Json.Slot.required?, hentries, htotal, received]

/-- The results that arrive as they were are those of writable entries. -/
theorem received_eq_self_iff {results : KindResults} :
    results.received = results ↔ ∀ entry ∈ results.entries, entry.Writable := by
  obtain ⟨entries, total⟩ := results
  simp only [received, KindResults.mk.injEq, and_true, ← Entry.received_eq_self_iff]
  induction entries with
  | nil => simp
  | cons entry rest ih => rw [List.map_cons, List.cons.injEq, ih, List.forall_mem_cons]

end KindResults

namespace SearchResponse

/-- What arrives of a response. -/
def received (response : SearchResponse) : SearchResponse :=
  { response with results := response.results.map KindResults.received }

/-- What a response must fulfil to arrive as it was. -/
def Writable (response : SearchResponse) : Prop :=
  ∀ kind results, response.results.find? kind = some results →
    ∀ entry ∈ results.entries, entry.Writable

/-- The results of all kinds are read from their JSON value as what arrives of them, although
names are ordered otherwise than kinds. -/
theorem resultsOfJson?_ofMembers (results : OrderedMap ResourceKind KindResults) :
    resultsOfJson? (Json.ofMembers
      (results.entries.map fun entry => (entry.1.name, entry.2.toJson))) =
        some (results.map KindResults.received) := by
  have hdistinct : (results.entries.map fun entry => (entry.1.name, entry.2.toJson)).Pairwise
      fun a b => a.1 ≠ b.1 :=
    List.pairwise_map.2 (results.ascending.distinct.imp fun hne heq => hne (by
      simpa using congrArg ResourceKind.ofName? heq))
  have hnamed : (results.entries.map fun entry => (entry.1.name, entry.2.toJson)).mapM
      (fun member => (KindResults.ofJson? member.2).map (member.1, ·)) =
        some (results.entries.map fun entry => (entry.1.name, entry.2.received)) :=
    mapM_map_eq_some (fun entry => by rw [KindResults.ofJson?_toJson]; rfl) results.entries
  have hkinds : (results.entries.map fun entry => (entry.1.name, entry.2.received)).mapM
      (fun member => do
        let kind ← ResourceKind.ofName? member.1
        pure (kind, member.2)) = some (results.map KindResults.received).entries :=
    mapM_map_eq_some (fun entry => by rw [ResourceKind.ofName?_name]; rfl) results.entries
  -- the object lists the members in the order of their names
  obtain ⟨named, hread, hperm⟩ :=
    exists_mapM_eq_some_of_perm (OrderedMap.perm_entries_ofList hdistinct).symm hnamed
  obtain ⟨entries, hread', hperm'⟩ := exists_mapM_eq_some_of_perm hperm hkinds
  rw [resultsOfJson?, Json.ofMembers, Json.members?, hread, ← OrderedMap.ofList_of_perm hperm'.symm]
  show Option.bind (named.mapM _) _ = _
  rw [hread']
  rfl

/-- A response is read from its JSON value as what arrives of it. -/
theorem ofJson?_toJson (response : SearchResponse) :
    ofJson? response.toJson = some response.received := by
  have hnumber : ∀ value, Json.uint64? (.ofUInt64 value) = some value := Whole.toUInt64?_ofUInt64
  have hcode : Json.natBelow? UInt16.size
      (.integer (.ofUInt64 response.statusCode.toUInt64)) = some response.statusCode.toNat := by
    have hlt : response.statusCode.toNat < UInt16.size := response.statusCode.toNat_lt
    rw [Json.natBelow?, ← Json.ofUInt64, hnumber]
    simp [hlt]
  rw [ofJson?, toJson, Json.slots?_ofMembers]
  simp [valueAt?, Json.Slot.required?, Json.text?, hnumber, hcode, resultsOfJson?_ofMembers,
    received]

/-- The responses that arrive as they were are the writable ones. -/
theorem received_eq_self_iff {response : SearchResponse} :
    response.received = response ↔ response.Writable := by
  have hresults : response.received = response ↔
      response.results.map KindResults.received = response.results := by
    cases response
    simp [received]
  rw [hresults]
  constructor
  · intro h kind results hfound
    rw [← KindResults.received_eq_self_iff]
    have hmapped := OrderedMap.find?_map KindResults.received response.results kind
    rw [h, hfound] at hmapped
    exact (Option.some.inj hmapped).symm
  · intro h
    refine OrderedMap.ext_find? fun kind => ?_
    rw [OrderedMap.find?_map]
    cases hfound : response.results.find? kind with
    | none => rfl
    | some results =>
      rw [Option.map_some, KindResults.received_eq_self_iff.2 (h kind results hfound)]

end SearchResponse

/-! ## Responses of an engine -/

/-- The score of a hit that is read from JSON is finite. -/
theorem Hit.score_isFinite_of_ofJson? {value : Json} {hit : Hit} (h : ofJson? value = some hit)
    {score : Double} (hscore : hit.score = some score) : score.isFinite = true := by
  obtain ⟨slots, -, h⟩ := Option.bind_eq_some_iff.1 h
  split at h
  · obtain ⟨index, -, h⟩ := Option.bind_eq_some_iff.1 h
    obtain ⟨id, -, h⟩ := Option.bind_eq_some_iff.1 h
    obtain ⟨number, hnumber, h⟩ := Option.bind_eq_some_iff.1 h
    obtain ⟨source, -, h⟩ := Option.bind_eq_some_iff.1 h
    cases h
    cases hscore
    obtain ⟨value, hvalue⟩ := Json.Slot.exists_of_optional? hnumber
    exact Json.isFinite_of_double? hvalue
  · cases h

/-- The hits of a reply that is read from JSON are read from JSON. -/
theorem Reply.exists_ofJson?_of_mem {value : Json} {reply : Reply} (h : ofJson? value = some reply)
    {hit : Hit} (hmem : hit ∈ reply.hits) : ∃ value, Hit.ofJson? value = some hit := by
  obtain ⟨slots, -, h⟩ := Option.bind_eq_some_iff.1 h
  split at h
  · obtain ⟨value, h⟩ := Json.Slot.exists_of_required? h
    obtain ⟨slots, -, h⟩ := Option.bind_eq_some_iff.1 h
    split at h
    · obtain ⟨total, -, h⟩ := Option.bind_eq_some_iff.1 h
      obtain ⟨hits, hhits, h⟩ := Option.bind_eq_some_iff.1 h
      cases h
      obtain ⟨value, hhits⟩ := Json.Slot.exists_of_required? hhits
      exact Json.exists_of_mem_list? hhits hmem
    · cases h
  · cases h

/-- The scores of an outcome that is read from JSON are finite. -/
theorem Item.score_isFinite_of_ofJson? {value : Json} {reply : Reply}
    (h : ofJson? value = some (.success reply)) {hit : Hit} (hmem : hit ∈ reply.hits)
    {score : Double} (hscore : hit.score = some score) : score.isFinite = true := by
  unfold ofJson? at h
  split at h
  · cases h
  · obtain ⟨read, hread, heq⟩ := Option.map_eq_some_iff.1 h
    cases heq
    obtain ⟨value, hhit⟩ := Reply.exists_ofJson?_of_mem hread hmem
    exact Hit.score_isFinite_of_ofJson? hhit hscore

/-- No table of the catalog has the name of the score among its canonical names. -/
theorem FieldTable.scoreName_not_mem_names (kind : ResourceKind) :
    Entry.scoreName ∉ (FieldTable.ofKind kind).names := by
  cases kind <;> decide

/-- A hit with a finite score makes a writable entry, whatever its document stores. -/
theorem Hit.writable_toEntry {hit : Hit}
    (h : ∀ score, hit.score = some score → score.isFinite = true) (kind : ResourceKind) :
    (hit.toEntry (FieldTable.ofKind kind)).Writable where
  unshadowed := by
    rw [get?_toEntry (FieldTable.names_ofKind_nodup kind),
      FieldTable.resolve?_eq_none (FieldTable.scoreName_not_mem_names kind), Option.bind_none]
  score := h
  values := by
    intro field value hget
    rw [get?_toEntry (FieldTable.names_ofKind_nodup kind)] at hget
    obtain ⟨binding, -, hvalue⟩ := Option.bind_eq_some_iff.1 hget
    obtain ⟨stored, -, rfl⟩ := Option.map_eq_some_iff.1 hvalue
    exact Value.isFinite_ofJson stored

namespace SearchResponse

/-- A response stays writable when a reply with finite scores is put into it. -/
theorem Writable.addReply {response : SearchResponse} (h : response.Writable) {reply : Reply}
    (hscores : ∀ hit ∈ reply.hits, ∀ score, hit.score = some score → score.isFinite = true)
    (searched : ResourceKind) : (response.addReply searched reply).Writable := by
  intro kind results hfound entry hentry
  rw [find?_addReply] at hfound
  split at hfound
  · cases hfound
    obtain ⟨hit, hhit, rfl⟩ := List.mem_map.1 hentry
    exact Hit.writable_toEntry (hscores hit hhit) kind
  · exact h kind results hfound entry hentry

/-- A response stays writable when outcomes that are read from JSON are put into it. -/
theorem Writable.addOutcomes {response final : SearchResponse} (h : response.Writable)
    {outcomes : List (ResourceKind × Item)}
    (hread : ∀ outcome ∈ outcomes, ∃ value, Item.ofJson? value = some outcome.2)
    (hfinal : response.addOutcomes outcomes = .ok final) : final.Writable := by
  induction outcomes generalizing response with
  | nil =>
    cases hfinal
    exact h
  | cons outcome rest ih =>
    obtain ⟨searched, item⟩ := outcome
    cases item with
    | failure failures => cases hfinal
    | success reply =>
      obtain ⟨value, hvalue⟩ := hread _ List.mem_cons_self
      refine ih (h.addReply (fun hit hhit score => ?_) searched)
        (fun other hother => hread other (List.mem_cons_of_mem _ hother)) hfinal
      exact Item.score_isFinite_of_ofJson? hvalue hhit

/-- The response in which every requested kind has no results is writable. -/
theorem writable_emptySuccess (pageIndex resultsPerPage : UInt64) (requested : List ResourceKind) :
    (emptySuccess pageIndex resultsPerPage requested).Writable := by
  intro kind results hfound entry hentry
  rw [find?_emptySuccess] at hfound
  split at hfound
  · cases hfound
    cases hentry
  · cases hfound

/-- A response is read from its JSON value as it was exactly when none of its entries has a field
with the name of the score and all its doubles are finite. This is so for every response that is
made of outcomes read from JSON, whatever documents they hold. -/
theorem survives_wire :
    (∀ response : SearchResponse, ofJson? response.toJson = some response ↔ response.Writable) ∧
    ∀ (pageIndex resultsPerPage : UInt64) (outcomes : List (ResourceKind × Item))
      (requested : List ResourceKind) (response : SearchResponse),
      (∀ outcome ∈ outcomes, ∃ value, Item.ofJson? value = some outcome.2) →
      assemble pageIndex resultsPerPage outcomes requested = .ok response →
      response.Writable ∧ ofJson? response.toJson = some response := by
  have hiff : ∀ response : SearchResponse,
      ofJson? response.toJson = some response ↔ response.Writable := by
    intro response
    rw [ofJson?_toJson, Option.some.injEq, received_eq_self_iff]
  refine ⟨hiff, fun pageIndex resultsPerPage outcomes requested response hread h => ?_⟩
  have hwritable : response.Writable :=
    (writable_emptySuccess pageIndex resultsPerPage requested).addOutcomes hread h
  exact ⟨hwritable, (hiff response).2 hwritable⟩

/-- A table without a score survives, though it stores a nested value and a field with the name of
the score. -/
theorem survives_wire_table :
    let source := Json.object [("columns", .array [.null, .object [("name", .text "id")]]),
      ("search_score", .bool true)]
    let hit := Json.object [("_index", .text "tables"), ("_id", .text "t1"), ("_source", source)]
    let value := Json.object [("hits", .object [("total", .null), ("hits", .array [hit])])]
    let item := Item.success ⟨none, [⟨"tables", some "t1", none, some source⟩]⟩
    Item.ofJson? value = some item ∧ ∃ response,
      assemble 0 10 [(.table, item)] [.table] = .ok response ∧
      (response.results.find? .table).map KindResults.entries = some
        [⟨.ofList [("column", .list [.null, .map [("name", .text "id")]])], none⟩] ∧
      ofJson? response.toJson = some response := by
  intro source hit value item
  have hread : ∀ outcome ∈ [(ResourceKind.table, item)],
      ∃ value, Item.ofJson? value = some outcome.2 := by
    intro outcome houtcome
    rw [List.mem_singleton.1 houtcome]
    exact ⟨value, rfl⟩
  exact ⟨rfl, _, rfl, rfl, (survives_wire.2 0 10 _ [.table] _ hread rfl).2⟩

end SearchResponse

end CatalogSearch
