import CatalogSearch.Service.Search

/-!
# Looking up a document by its key

A lookup is a round with a single search for the key. Its outcome is decided by the total first:
no document, several documents, or one, which must be there and have an identifier.
-/

namespace CatalogSearch

namespace Reply

/-- The document of a reply that counts one, which must be there and have an identifier. -/
def single (reply : Reply) (kind : ResourceKind) (key : String) :
    Except LookupFailure Document :=
  match reply.hits with
  | [] =>
    .error (.internal (.stated
      ("Search engine counted a " ++ kind.name ++ " document for key " ++ key ++
        " but returned none")))
  | hit :: _ =>
    match hit.id with
    | none =>
      .error (.internal (.stated
        ("Search engine returned " ++ kind.name ++ " document for key " ++ key ++
          " without an id")))
    | some id => .ok ⟨id, hit.sourceFields⟩

/-- The only document of a reply to a search for a key. -/
def unique (reply : Reply) (kind : ResourceKind) (key : String) :
    Except LookupFailure Document :=
  if reply.totalHits = 0 then .error (.notFound kind key)
  else if reply.totalHits = 1 then reply.single kind key
  else .error (.notUnique kind key reply.totalHits)

end Reply

namespace Catalog

variable {σ : Type}

/-- The document that the outcome of a search for a key holds. -/
def resolve (kind : ResourceKind) (key : String) :
    List (ResourceKind × Item) → Except LookupFailure Document
  | [] =>
    .error (.internal (.stated
      ("No response from search engine for " ++ kind.name ++ " key " ++ key)))
  | (_, .failure failures) :: _ => .error (.engine ⟨kind, failures⟩)
  | (_, .success reply) :: _ => reply.unique kind key

/-- The document of a kind with a unique key. -/
def lookup (catalog : Catalog σ) (kind : ResourceKind) (key : String) :
    StateM σ (Except LookupFailure Document) := do
  let outcomes ← catalog.execute (.ofList [(kind, Query.ofKey key)]) 0 1
  pure (resolve kind key outcomes)

end Catalog

end CatalogSearch
