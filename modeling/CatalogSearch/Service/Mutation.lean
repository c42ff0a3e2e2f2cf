import CatalogSearch.Service.Lookup
import CatalogSearch.Value.Edit

/-!
# Changing a field of a document

A change reads the field, computes the new value and writes it back, without any guard against
changes in between. It is split where such changes could happen: `Catalog.prepare` reads and
computes, and yields the write that `Catalog.commit` carries out. The write names a single field.
-/

namespace CatalogSearch

/-- A change of one field of one document. -/
inductive Mutation where
  | update (request : UpdateRequest)
  | delete (request : DeleteRequest)
deriving DecidableEq

namespace Mutation

/-- The kind of the document. -/
def kind : Mutation → ResourceKind
  | .update request => request.kind
  | .delete request => request.kind

/-- The key of the document. -/
def key : Mutation → String
  | .update request => request.key
  | .delete request => request.key

/-- The canonical name of the field. -/
def field : Mutation → String
  | .update request => request.field
  | .delete request => request.field

/-- The name that the field is stored by. -/
def sourceField (mutation : Mutation) : String :=
  (FieldTable.ofKind mutation.kind).sourceField mutation.field

/-- The new value of the field. -/
def apply (current : Value) : Mutation → Except ValueAbsent Value
  | .update request => .ok (current.updated request.value request.mode)
  | .delete request => current.removed request.value

/-- The text that tells of the change. -/
def message (mutation : Mutation) : String :=
  let told := fun (value done : String) =>
    "Document field " ++ mutation.field ++ " for " ++ mutation.key ++ " with value " ++ value ++
      " was " ++ done ++ " successfully"
  match mutation with
  | .update request => told request.value "updated"
  | .delete request => told (request.value.getD "") "deleted"

/-- The failure of a change, from its cause. -/
def failure (mutation : Mutation) (cause : MutationCause) : MutationFailure :=
  ⟨mutation.field, mutation.key, cause⟩

end Mutation

/-- A write that is still to be carried out: the new value of a stored field of a document. -/
structure PendingWrite where
  mutation : Mutation
  id : String
  value : Value

/-- The partial update that a write asks the engine for: one field, under the name it is stored
by. -/
def PendingWrite.body (write : PendingWrite) : Json :=
  .object [("doc", .object [(write.mutation.sourceField, write.value.toJson)])]

/-- The identifier of a document and the current value of a stored field. -/
def Document.field (document : Document) (field : String) :
    Except FetchFailure (String × Value) :=
  match document.fields.find? field with
  | some value => .ok (document.id, value)
  | none => .error (.fieldMissing document.id field)

namespace Catalog

variable {σ : Type}

/-- The write that a change amounts to, given the outcome of the lookup. -/
def plan (mutation : Mutation) (found : Except LookupFailure Document) :
    Except MutationFailure PendingWrite :=
  match found with
  | .error failure => .error (mutation.failure (.fetch (.lookup failure)))
  | .ok document =>
    match document.field mutation.sourceField with
    | .error failure => .error (mutation.failure (.fetch failure))
    | .ok (id, current) =>
      match mutation.apply current with
      | .error absent => .error (mutation.failure (.removal absent))
      | .ok value => .ok ⟨mutation, id, value⟩

/-- Read the field and compute the write. -/
def prepare (catalog : Catalog σ) (mutation : Mutation) :
    StateM σ (Except MutationFailure PendingWrite) := do
  let found ← catalog.lookup mutation.kind mutation.key
  pure (plan mutation found)

/-- Carry out a write. -/
def commit (catalog : Catalog σ) (write : PendingWrite) :
    StateM σ (Except MutationFailure String) := do
  match ← catalog.engine.updateDocument (catalog.index write.mutation.kind) write.id
      write.body with
  | .ok () => pure (.ok write.mutation.message)
  | .error error => pure (.error (write.mutation.failure (.persist error)))

/-- Change a field of a document, and tell of it. -/
def mutate (catalog : Catalog σ) (mutation : Mutation) :
    StateM σ (Except MutationFailure String) := do
  match ← catalog.prepare mutation with
  | .ok write => catalog.commit write
  | .error failure => pure (.error failure)

/-- Put a value into a field of a document. -/
def update (catalog : Catalog σ) (request : UpdateRequest) :
    StateM σ (Except MutationFailure String) := catalog.mutate (.update request)

/-- Remove a value from a field of a document. -/
def delete (catalog : Catalog σ) (request : DeleteRequest) :
    StateM σ (Except MutationFailure String) := catalog.mutate (.delete request)

end Catalog

end CatalogSearch
